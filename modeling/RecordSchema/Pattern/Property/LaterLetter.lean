namespace RecordSchema

/-!
# Letters of the next edition

The other tables of properties are those of Unicode 16.  Names of groups may also
use the letters and numbers that Unicode 17 adds.
-/

namespace Pattern

/-- The alphabetic characters that are new in Unicode 17. -/
def laterLetters : List String :=
  [
    "88f c5c cdc a7ce-a7cf a7d2 a7d4 a7f1 10940-10959 10ec5-10ec7 10efa-10efb 11b60-11b67",
    "11db0-11ddb 16ea0-16eb8 16ebb-16ed3 16ff2-16ff6 187f8-187ff 18d09-18d1e 18d80-18df2",
    "1e6c0-1e6de 1e6e0-1e6f5 1e6fe-1e6ff 2b73a-2b73f 2cea2-2cead 323b0-33479"
  ]

/-- The numbers that are new in Unicode 17. -/
def laterNumbers : List String :=
  ["11de0-11de9 16ff4-16ff6"]

end Pattern

end RecordSchema
