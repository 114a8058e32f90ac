import RecordSchema.Files.Basic

namespace RecordSchema

/-!
# Snapshots of a file system

Answers that were collected beforehand, by path.  A path that was not asked for
leads nowhere.
-/

/-- Collected answers by path. -/
structure Snapshot where
  kinds : List (String × Except FileError FileKind) := []
  contents : List (String × Except FileError ByteArray) := []
  listings : List (String × Except FileError (List (Except FileError String))) := []

namespace Snapshot

/-- The snapshot with the answers of another one behind its own. -/
def append (first second : Snapshot) : Snapshot where
  kinds := first.kinds ++ second.kinds
  contents := first.contents ++ second.contents
  listings := first.listings ++ second.listings

/-- The answer for a path. -/
def answer (path : String) (answers : List (String × Except FileError α)) : Except FileError α :=
  (answers.lookup path).getD (.error .notFound)

/-- The answers of a file system that is known by a snapshot. -/
def toFiles (snapshot : Snapshot) : Files where
  kind := fun path => answer path snapshot.kinds
  bytes := fun path => answer path snapshot.contents
  entries := fun path => answer path snapshot.listings

end Snapshot

end RecordSchema
