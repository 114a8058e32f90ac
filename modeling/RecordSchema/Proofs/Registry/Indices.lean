import RecordSchema.Proofs.Hierarchy.Walk
import RecordSchema.Proofs.Registry.Flags

namespace RecordSchema

/-!
# Attached indices

An index over a single property sets a flag: on its target class, and on each copy
below it that comes from the same declaration.  Indices change nothing else, and
whether one is refused does not depend on the others.
-/

open Property (Flagged)

namespace Registry

/-- A class with further flags and indices. -/
structure FlaggedModel
    (own effective : String → Bool → Prop)
    (added : List Index)
    (before after : ClassModel) : Prop where
  frame :
    after =
      { before with
        own := after.own, effective := after.effective, indices := after.indices }
  own : FlaggedMap own before.own after.own
  effective : FlaggedMap effective before.effective after.effective
  indices : after.indices = before.indices ++ added

namespace FlaggedModel

theorem refl
    {own effective : String → Bool → Prop}
    (neverOwn : ∀ name fulltext, ¬own name fulltext)
    (neverEffective : ∀ name fulltext, ¬effective name fulltext)
    (model : ClassModel) :
    FlaggedModel own effective [] model model where
  frame := rfl
  own := .refl neverOwn model.own
  effective := .refl neverEffective model.effective
  indices := (List.append_nil _).symm

theorem trans
    {firstOwn secondOwn bothOwn firstEffective secondEffective bothEffective :
      String → Bool → Prop}
    {firstAdded secondAdded : List Index}
    {before between after : ClassModel}
    (eitherOwn :
      ∀ name fulltext,
        bothOwn name fulltext ↔ firstOwn name fulltext ∨ secondOwn name fulltext)
    (eitherEffective :
      ∀ name fulltext,
        bothEffective name fulltext ↔
          firstEffective name fulltext ∨ secondEffective name fulltext)
    (earlier : FlaggedModel firstOwn firstEffective firstAdded before between)
    (later : FlaggedModel secondOwn secondEffective secondAdded between after) :
    FlaggedModel bothOwn bothEffective (firstAdded ++ secondAdded) before after where
  frame := by
    rw [later.frame, earlier.frame]
  own := earlier.own.trans eitherOwn later.own
  effective := earlier.effective.trans eitherEffective later.effective
  indices := by
    rw [later.indices, earlier.indices, List.append_assoc]

theorem id_eq
    {own effective : String → Bool → Prop}
    {added : List Index}
    {before after : ClassModel}
    (flagged : FlaggedModel own effective added before after) :
    after.id = before.id := by
  rw [flagged.frame]

theorem name_eq
    {own effective : String → Bool → Prop}
    {added : List Index}
    {before after : ClassModel}
    (flagged : FlaggedModel own effective added before after) :
    after.name = before.name := by
  rw [flagged.frame]

end FlaggedModel

/-- The target of an index has one more index, and a flag if the index is over one property. -/
theorem flaggedModel_attach
    (model : ClassModel)
    (index : Index) :
    FlaggedModel
      (fun name fulltext =>
        index.singleProperty? = some name ∧ index.kind.isFulltext = fulltext)
      (fun name fulltext =>
        index.singleProperty? = some name ∧ index.kind.isFulltext = fulltext)
      [index] model (attach model index) := by
  rw [attach]
  split
  · rename_i single isSingle
    have flagged :
        ∀ map : SortedMap Property,
          FlaggedMap
            (fun name fulltext =>
              index.singleProperty? = some name ∧ index.kind.isFulltext = fulltext)
            map (map.modify single (Property.markIndexed index.kind.isFulltext)) := by
      intro map
      refine (FlaggedMap.modify map single _ fun property _ =>
        Property.flagged_markIndexed _ property).congr ?_
      simp [isSingle, eq_comm]
    exact ⟨rfl, flagged _, flagged _, rfl⟩
  · rename_i noSingle
    have never : ∀ name fulltext, ¬(index.singleProperty? = some name ∧
        index.kind.isFulltext = fulltext) := by
      simp [noSingle]
    exact ⟨rfl, .refl never _, .refl never _, rfl⟩

/-- The copy of a declaration gets a flag. -/
theorem flaggedModel_markInherited
    (name origin : String)
    (fulltext : Bool)
    (model : ClassModel) :
    FlaggedModel (fun _ _ => False)
      (fun other flag =>
        other = name ∧
          (model.effective.get? name).map Property.declaredOn = some origin ∧ flag = fulltext)
      [] model (markInherited name origin fulltext model) where
  frame := rfl
  own := .refl (by simp) _
  effective := by
    refine FlaggedMap.modify model.effective name
      (fun property =>
        if property.declaredOn = origin then property.markIndexed fulltext else property)
      fun property found => ?_
    rw [found]
    by_cases sameOrigin : property.declaredOn = origin
    · rw [if_pos sameOrigin]
      exact (Property.flagged_markIndexed fulltext property).congr (by simp [sameOrigin])
    · rw [if_neg sameOrigin]
      exact .refl (by simp [sameOrigin]) property
  indices := (List.append_nil _).symm

/-- Each class stands at its number. -/
def IsPlaced (models : List ClassModel) : Prop :=
  ∀ (id : Nat) (model : ClassModel), models[id]? = some model → model.id = id

/-- The class that declares what another class has under a name. -/
def originOf? (models : List ClassModel) (id : Nat) (name : String) : Option String :=
  (models[id]?.bind fun model => model.effective.get? name).map Property.declaredOn

/-- An index over a single property flags the own one of its target class. -/
def FlagsOwn
    (hierarchy : Hierarchy)
    (index : Index)
    (id : Nat)
    (name : String)
    (fulltext : Bool) : Prop :=
  index.singleProperty? = some name ∧ index.kind.isFulltext = fulltext ∧
    hierarchy.idOf? index.className = some id

/--
An index over a single property flags the effective one of its target class, and those
below it that come from the same declaration.
-/
def Flags
    (hierarchy : Hierarchy)
    (models : List ClassModel)
    (index : Index)
    (id : Nat)
    (name : String)
    (fulltext : Bool) : Prop :=
  index.singleProperty? = some name ∧ index.kind.isFulltext = fulltext ∧
    ∃ target,
      hierarchy.idOf? index.className = some target ∧
        (id = target ∨
          hierarchy.Descends id target ∧
            originOf? models id name = originOf? models target name)

/-- Classes with the flags of given indices, each of which its target has. -/
structure Attached
    (hierarchy : Hierarchy)
    (indices : List Index)
    (before after : List ClassModel) : Prop where
  length_eq : after.length = before.length
  models :
    ∀ id model,
      before[id]? = some model →
      ∃ attached,
        after[id]? = some attached ∧
          FlaggedModel
            (fun name fulltext => ∃ index ∈ indices, FlagsOwn hierarchy index id name fulltext)
            (fun name fulltext =>
              ∃ index ∈ indices, Flags hierarchy before index id name fulltext)
            (indices.filter fun index => hierarchy.idOf? index.className = some id)
            model attached

namespace Attached

variable
  {hierarchy : Hierarchy}
  {indices : List Index}
  {before after : List ClassModel}

theorem refl
    (hierarchy : Hierarchy)
    (models : List ClassModel) :
    Attached hierarchy [] models models where
  length_eq := rfl
  models _ model found := ⟨model, found, .refl (by simp) (by simp) model⟩

theorem origin
    (attached : Attached hierarchy indices before after)
    {id : Nat}
    {flagged : ClassModel}
    (found : after[id]? = some flagged) :
    ∃ model,
      before[id]? = some model ∧
        FlaggedModel
          (fun name fulltext => ∃ index ∈ indices, FlagsOwn hierarchy index id name fulltext)
          (fun name fulltext =>
            ∃ index ∈ indices, Flags hierarchy before index id name fulltext)
          (indices.filter fun index => hierarchy.idOf? index.className = some id)
          model flagged := by
  have inRange : id < before.length := by
    rw [← attached.length_eq]
    exact (List.getElem?_eq_some_iff.mp found).1
  obtain ⟨other, otherFound, isFlagged⟩ :=
    attached.models id _ (List.getElem?_eq_getElem inRange)
  cases found.symm.trans otherFound
  exact ⟨_, List.getElem?_eq_getElem inRange, isFlagged⟩

theorem isPlaced
    (attached : Attached hierarchy indices before after)
    (placed : IsPlaced before) :
    IsPlaced after := by
  intro id flagged found
  obtain ⟨model, modelFound, isFlagged⟩ := attached.origin found
  exact isFlagged.id_eq.trans (placed id model modelFound)

/-- Properties come from the same classes. -/
theorem originOf?_eq
    (attached : Attached hierarchy indices before after) :
    originOf? after = originOf? before := by
  funext id name
  cases found : before[id]? with
  | none =>
      have missing : after[id]? = none := by
        rw [List.getElem?_eq_none_iff] at found ⊢
        exact attached.length_eq ▸ found
      rw [originOf?, originOf?, found, missing]
  | some model =>
      obtain ⟨flagged, flaggedFound, isFlagged⟩ := attached.models id model found
      rw [originOf?, originOf?, found, flaggedFound]
      exact isFlagged.effective.declaredOn_eq name

theorem trans
    {first second : List Index}
    {between : List ClassModel}
    (earlier : Attached hierarchy first before between)
    (later : Attached hierarchy second between after) :
    Attached hierarchy (first ++ second) before after where
  length_eq := later.length_eq.trans earlier.length_eq
  models id model found := by
    obtain ⟨middle, middleFound, earlierFlagged⟩ := earlier.models id model found
    obtain ⟨flagged, flaggedFound, laterFlagged⟩ := later.models id middle middleFound
    refine ⟨flagged, flaggedFound, ?_⟩
    rw [List.filter_append]
    refine earlierFlagged.trans ?_ ?_ laterFlagged
    · simp [or_and_right, exists_or]
    · simp [or_and_right, exists_or, Flags, earlier.originOf?_eq]

end Attached

/-- The refusal of an index, if it is refused. -/
def refusal?
    (hierarchy : Hierarchy)
    (models : List ClassModel)
    (index : Index) : Option DefinitionError :=
  match (hierarchy.idOf? index.className).bind fun id => models[id]? with
  | none => some (.unknownIndexClass index.name index.className)
  | some target => indexDefect? target index

theorem singleProperty?_eq_some_iff
    {index : Index}
    {name : String} :
    index.singleProperty? = some name ↔ index.properties = [name] := by
  rw [Index.singleProperty?]
  split
  · rename_i single isSingle
    simp [isSingle]
  · rename_i notSingle
    simpa using notSingle name

/-- An index without a defect is over properties that its class has. -/
theorem indexDefect?_eq_none_iff
    {model : ClassModel}
    {index : Index} :
    indexDefect? model index = none ↔
      index.properties ≠ [] ∧ ∀ name ∈ index.properties, model.effective.contains name = true := by
  rw [indexDefect?]
  split
  · rename_i isEmpty
    simp [List.isEmpty_iff.mp isEmpty]
  · rename_i notEmpty
    simpa [List.find?_eq_none] using fun _ => notEmpty

/-- Below its target an index flags what comes from the same declaration. -/
theorem flaggedModel_flagDescendants
    {hierarchy : Hierarchy}
    {target : ClassModel}
    {index : Index}
    {models : List ClassModel}
    {id : Nat}
    {model : ClassModel}
    (reaches :
      ∀ {id descendant},
        descendant ∈ hierarchy.descendants id ↔ hierarchy.Descends descendant id)
    (covered : ∀ name ∈ index.properties, target.effective.contains name = true)
    (placed : model.id = id)
    (found : models[id]? = some model) :
    ∃ flagged,
      (flagDescendants hierarchy target index models)[id]? = some flagged ∧
        FlaggedModel (fun _ _ => False)
          (fun name fulltext =>
            index.singleProperty? = some name ∧ index.kind.isFulltext = fulltext ∧
              hierarchy.Descends id target.id ∧
                (model.effective.get? name).map Property.declaredOn =
                  (target.effective.get? name).map Property.declaredOn)
          [] model flagged := by
  rw [flagDescendants]
  split
  · rename_i noSingle
    exact ⟨model, found, .refl (by simp) (by simp [noSingle]) model⟩
  · rename_i single isSingle
    have present := covered single (by simp [singleProperty?_eq_some_iff.mp isSingle])
    split
    · rename_i missing
      rw [SortedMap.contains, missing] at present
      cases present
    · rename_i property propertyFound
      rw [List.getElem?_map, found, Option.map_some, placed]
      refine ⟨_, rfl, ?_⟩
      by_cases below : hierarchy.Descends id target.id
      · rw [if_pos (List.contains_iff_mem.mpr (reaches.mpr below))]
        have marked :=
          flaggedModel_markInherited single property.declaredOn index.kind.isFulltext model
        refine ⟨marked.frame, marked.own, marked.effective.congr ?_, marked.indices⟩
        intro name fulltext
        constructor
        · rintro ⟨rfl, sameOrigin, rfl⟩
          exact ⟨isSingle, rfl, below, by rw [sameOrigin, propertyFound]; rfl⟩
        · rintro ⟨isName, rfl, _, sameOrigin⟩
          cases isSingle.symm.trans isName
          exact ⟨rfl, by rw [sameOrigin, propertyFound]; rfl, rfl⟩
      · rw [if_neg fun contained => below (reaches.mp (List.contains_iff_mem.mp contained))]
        exact .refl (by simp) (by simp [below]) model

/-- At its target an index is added, and it flags the property if it is over one. -/
theorem flaggedModel_set
    {hierarchy : Hierarchy}
    {target : ClassModel}
    {index : Index}
    {models : List ClassModel}
    {id : Nat}
    {model : ClassModel}
    (idFound : hierarchy.idOf? index.className = some target.id)
    (targetFound : models[target.id]? = some target)
    (found : models[id]? = some model) :
    ∃ flagged,
      (models.set target.id (attach target index))[id]? = some flagged ∧
        FlaggedModel (FlagsOwn hierarchy index id) (FlagsOwn hierarchy index id)
          ([index].filter fun index => hierarchy.idOf? index.className = some id)
          model flagged := by
  by_cases isTarget : id = target.id
  · subst isTarget
    cases targetFound.symm.trans found
    have inRange := (List.getElem?_eq_some_iff.mp found).1
    have marked := flaggedModel_attach target index
    refine ⟨_, List.getElem?_set_self inRange, marked.frame, marked.own.congr ?_,
      marked.effective.congr ?_, ?_⟩
    · simp [FlagsOwn, idFound]
    · simp [FlagsOwn, idFound]
    · rw [marked.indices]
      simp [idFound]
  · have elsewhere : hierarchy.idOf? index.className ≠ some id := by
      rw [idFound]
      exact fun same => isTarget (Option.some.inj same).symm
    have never : ∀ name fulltext, ¬FlagsOwn hierarchy index id name fulltext :=
      fun _ _ flags => elsewhere flags.2.2
    refine ⟨model, ?_, ?_⟩
    · rw [List.getElem?_set_ne (Ne.symm isTarget)]
      exact found
    · rw [List.filter_cons_of_neg (by simpa using elsewhere), List.filter_nil]
      exact .refl never never model

/-- An index flags what it flags at its target, and below what comes from the same declaration. -/
theorem flags_iff
    {hierarchy : Hierarchy}
    {target : ClassModel}
    {index : Index}
    {models : List ClassModel}
    {id : Nat}
    {model : ClassModel}
    (idFound : hierarchy.idOf? index.className = some target.id)
    (targetFound : models[target.id]? = some target)
    (found : models[id]? = some model)
    (name : String)
    (fulltext : Bool) :
    Flags hierarchy models index id name fulltext ↔
      FlagsOwn hierarchy index id name fulltext ∨
        index.singleProperty? = some name ∧ index.kind.isFulltext = fulltext ∧
          hierarchy.Descends id target.id ∧
            (model.effective.get? name).map Property.declaredOn =
              (target.effective.get? name).map Property.declaredOn := by
  have originHere : originOf? models id name = (model.effective.get? name).map Property.declaredOn := by
    rw [originOf?, found, Option.bind_some]
  have originThere :
      originOf? models target.id name =
        (target.effective.get? name).map Property.declaredOn := by
    rw [originOf?, targetFound, Option.bind_some]
  rw [Flags, FlagsOwn, ← originHere, ← originThere]
  constructor
  · rintro ⟨isName, sameKind, other, otherFound, rfl | ⟨descends, sameOrigin⟩⟩
    · exact .inl ⟨isName, sameKind, otherFound⟩
    · cases idFound.symm.trans otherFound
      exact .inr ⟨isName, sameKind, descends, sameOrigin⟩
  · rintro (⟨isName, sameKind, isTarget⟩ | ⟨isName, sameKind, below⟩)
    · exact ⟨isName, sameKind, id, isTarget, .inl rfl⟩
    · exact ⟨isName, sameKind, target.id, idFound, .inr below⟩

/-- An accepted index flags its target and the copies below. -/
theorem attachIndex_ok
    {hierarchy : Hierarchy}
    {models attached : List ClassModel}
    {declaring : String}
    {definition : IndexDefinition}
    (reaches :
      ∀ {id descendant},
        descendant ∈ hierarchy.descendants id ↔ hierarchy.Descends descendant id)
    (placed : IsPlaced models)
    (accepted : attachIndex hierarchy models declaring definition = .ok attached) :
    refusal? hierarchy models (.ofDefinition declaring definition) = none ∧
      Attached hierarchy [.ofDefinition declaring definition] models attached := by
  simp only [attachIndex] at accepted
  generalize Index.ofDefinition declaring definition = index at accepted ⊢
  split at accepted
  · cases accepted
  · rename_i target targetFound
    split at accepted
    · cases accepted
    · rename_i noDefect
      cases accepted
      refine ⟨by rw [refusal?, targetFound]; exact noDefect, ?_⟩
      obtain ⟨targetId, idFound, modelFound⟩ := Option.bind_eq_some_iff.mp targetFound
      obtain rfl := placed targetId target modelFound
      refine ⟨?_, fun id model found => ?_⟩
      · rw [flagDescendants]
        split
        · simp
        · split <;> simp
      · obtain ⟨middle, middleFound, atTarget⟩ := flaggedModel_set idFound modelFound found
        obtain ⟨flagged, flaggedFound, below⟩ :=
          flaggedModel_flagDescendants reaches (indexDefect?_eq_none_iff.mp noDefect).2
            (atTarget.id_eq.trans (placed id model found)) middleFound
        refine ⟨flagged, flaggedFound, ?_⟩
        rw [← List.append_nil (List.filter _ _)]
        refine atTarget.trans (by simp) ?_ below
        intro name fulltext
        rw [atTarget.effective.declaredOn_eq]
        simpa using flags_iff idFound modelFound found name fulltext

/-- A refused index is refused for what the classes lack. -/
theorem attachIndex_error
    {hierarchy : Hierarchy}
    {models : List ClassModel}
    {declaring : String}
    {definition : IndexDefinition}
    {error : DefinitionError}
    (refused : attachIndex hierarchy models declaring definition = .error error) :
    refusal? hierarchy models (.ofDefinition declaring definition) = some error := by
  simp only [attachIndex] at refused
  split at refused
  · rename_i noTarget
    cases refused
    rw [refusal?, noTarget]
  · rename_i target targetFound
    rw [refusal?, targetFound]
    split at refused
    · rename_i defect defectFound
      cases refused
      exact defectFound
    · cases refused

/-- Whether an index is refused does not depend on those attached before. -/
theorem Attached.refusal?_eq
    {hierarchy : Hierarchy}
    {indices : List Index}
    {before after : List ClassModel}
    (attached : Attached hierarchy indices before after)
    (index : Index) :
    refusal? hierarchy after index = refusal? hierarchy before index := by
  rw [refusal?, refusal?]
  cases idFound : hierarchy.idOf? index.className with
  | none =>
      rfl
  | some id =>
      rw [Option.bind_some, Option.bind_some]
      cases found : before[id]? with
      | none =>
          have missing : after[id]? = none := by
            rw [List.getElem?_eq_none_iff] at found ⊢
            exact attached.length_eq ▸ found
          rw [missing]
      | some model =>
          obtain ⟨flagged, flaggedFound, isFlagged⟩ := attached.models id model found
          rw [flaggedFound]
          simp only [indexDefect?, isFlagged.effective.contains_eq, isFlagged.name_eq]

/-- Accepted indices are those that the classes admit, and each sets its flags. -/
theorem attachIndices_ok
    {hierarchy : Hierarchy}
    {models attached : List ClassModel}
    {entries : List (String × IndexDefinition)}
    (reaches :
      ∀ {id descendant},
        descendant ∈ hierarchy.descendants id ↔ hierarchy.Descends descendant id)
    (placed : IsPlaced models)
    (accepted : attachIndices hierarchy models entries = .ok attached) :
    (∀ entry ∈ entries, refusal? hierarchy models (.ofDefinition entry.1 entry.2) = none) ∧
      Attached hierarchy (entries.map fun entry => .ofDefinition entry.1 entry.2) models
        attached := by
  induction entries generalizing models with
  | nil =>
      cases accepted
      exact ⟨by simp, .refl hierarchy _⟩
  | cons first rest inductionHypothesis =>
      rw [attachIndices] at accepted
      split at accepted
      · cases accepted
      · rename_i middle firstAccepted
        obtain ⟨firstAdmitted, firstAttached⟩ := attachIndex_ok reaches placed firstAccepted
        obtain ⟨restAdmitted, restAttached⟩ :=
          inductionHypothesis (firstAttached.isPlaced placed) accepted
        refine ⟨fun entry member => ?_, firstAttached.trans restAttached⟩
        rcases List.mem_cons.mp member with rfl | later
        · exact firstAdmitted
        · exact (firstAttached.refusal?_eq _).symm.trans (restAdmitted entry later)

/-- Refused indices have one that the classes do not admit. -/
theorem attachIndices_error
    {hierarchy : Hierarchy}
    {models : List ClassModel}
    {entries : List (String × IndexDefinition)}
    {error : DefinitionError}
    (reaches :
      ∀ {id descendant},
        descendant ∈ hierarchy.descendants id ↔ hierarchy.Descends descendant id)
    (placed : IsPlaced models)
    (refused : attachIndices hierarchy models entries = .error error) :
    ∃ entry ∈ entries,
      refusal? hierarchy models (.ofDefinition entry.1 entry.2) = some error := by
  induction entries generalizing models with
  | nil =>
      cases refused
  | cons first rest inductionHypothesis =>
      rw [attachIndices] at refused
      split at refused
      · rename_i firstRefused
        cases refused
        exact ⟨first, List.mem_cons_self, attachIndex_error firstRefused⟩
      · rename_i middle firstAccepted
        obtain ⟨_, firstAttached⟩ := attachIndex_ok reaches placed firstAccepted
        obtain ⟨entry, member, isRefused⟩ :=
          inductionHypothesis (firstAttached.isPlaced placed) refused
        exact ⟨entry, List.mem_cons_of_mem _ member,
          (firstAttached.refusal?_eq _).symm.trans isRefused⟩

end Registry

end RecordSchema
