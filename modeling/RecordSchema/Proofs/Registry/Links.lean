import RecordSchema.Proofs.SortedMap
import RecordSchema.Registry.Linking

namespace RecordSchema

/-!
# Resolved links

Resolution replaces every pending link of a class by one that has the number of the
class it names, and touches nothing else.  A link is refused only when it names no
class: each pending one belongs to an own property that nobody has resolved before.
-/

/-- The property with its link resolved, if the link is pending and names a class. -/
def Property.linkIn (hierarchy : Hierarchy) (property : Property) : Property :=
  match property.linkedClass with
  | some (.pending linked) =>
      match hierarchy.idOf? linked with
      | some target => property.resolveLink target
      | none => property
  | _ => property

/-- Resolution of a link changes nothing else of a property. -/
theorem Property.frame_linkIn
    (hierarchy : Hierarchy)
    (property : Property) :
    property.linkIn hierarchy =
      { property with linkedClass := (property.linkIn hierarchy).linkedClass } := by
  rw [linkIn]
  split
  · split
    · rw [resolveLink]
      split <;> rfl
    · rfl
  · rfl

/-- Each own property is found under its own name. -/
def ClassModel.IsNamed (model : ClassModel) : Prop :=
  ∀ name property, model.own.get? name = some property → property.name = name

namespace Registry

/-- The pending link of an own property is resolved unless the class is frozen. -/
theorem resolveLink_pending
    {hierarchy : Hierarchy}
    {model : ClassModel}
    {name linked : String}
    {target : Nat}
    {property : Property}
    (thawed : hierarchy.isFrozen model.id = false)
    (found : model.own.get? name = some property)
    (pending : property.linkedClass = some (.pending linked)) :
    resolveLink hierarchy model name target =
      .ok { model with own := model.own.modify name (Property.resolveLink target) } := by
  rw [resolveLink, thawed]
  simp [found, pending]

/-- The pending links of a list belong to own properties, each to another one. -/
structure PendingIn (model : ClassModel) (links : List (String × String)) : Prop where
  distinct : (links.map Prod.fst).Nodup
  pending :
    ∀ link ∈ links,
      ∃ property,
        model.own.get? link.1 = some property ∧
          property.linkedClass = some (.pending link.2)

theorem PendingIn.tail
    {model : ClassModel}
    {name linked : String}
    {target : Nat}
    {rest : List (String × String)}
    (pendingIn : PendingIn model ((name, linked) :: rest)) :
    PendingIn { model with own := model.own.modify name (Property.resolveLink target) } rest where
  distinct := (List.nodup_cons.mp pendingIn.distinct).2
  pending link member := by
    have different : link.1 ≠ name := by
      intro same
      exact (List.nodup_cons.mp pendingIn.distinct).1
        (List.mem_map.mpr ⟨link, member, same⟩)
    obtain ⟨property, found, pending⟩ := pendingIn.pending link (List.mem_cons_of_mem _ member)
    refine ⟨property, ?_, pending⟩
    rw [SortedMap.get?_modify, if_neg different]
    exact found

/-- Pending links that are accepted name classes and are resolved, and nothing else changes. -/
theorem resolvePending_ok
    {hierarchy : Hierarchy}
    {model resolved : ClassModel}
    {links : List (String × String)}
    (thawed : hierarchy.isFrozen model.id = false)
    (pendingIn : PendingIn model links)
    (accepted : resolvePending hierarchy model links = .ok resolved) :
    (∀ link ∈ links, ∃ target, hierarchy.idOf? link.2 = some target) ∧
      ∃ own,
        resolved = { model with own } ∧
          ∀ name,
            own.get? name =
              (model.own.get? name).map fun property =>
                if name ∈ links.map Prod.fst then property.linkIn hierarchy else property := by
  induction links generalizing model with
  | nil =>
      cases accepted
      exact ⟨by simp, _, rfl, by simp⟩
  | cons first rest inductionHypothesis =>
      obtain ⟨firstName, linked⟩ := first
      obtain ⟨property, found, pending⟩ := pendingIn.pending _ List.mem_cons_self
      rw [resolvePending] at accepted
      split at accepted
      · cases accepted
      · rename_i target known
        simp only [resolveLink_pending thawed found pending] at accepted
        obtain ⟨restKnown, own, rfl, lookups⟩ :=
          inductionHypothesis (by exact thawed) pendingIn.tail accepted
        refine ⟨?_, own, rfl, ?_⟩
        · intro link member
          rcases List.mem_cons.mp member with rfl | later
          · exact ⟨target, known⟩
          · exact restKnown link later
        · intro name
          rw [lookups, SortedMap.get?_modify]
          by_cases atFirst : name = firstName
          · subst atFirst
            have notLater : name ∉ rest.map Prod.fst :=
              (List.nodup_cons.mp pendingIn.distinct).1
            simp [found, notLater, Property.linkIn, pending, known]
          · rw [if_neg atFirst]
            simp only [List.map_cons, List.mem_cons, atFirst, false_or]

theorem resolvePending_error
    {hierarchy : Hierarchy}
    {model : ClassModel}
    {links : List (String × String)}
    {error : DefinitionError}
    (thawed : hierarchy.isFrozen model.id = false)
    (pendingIn : PendingIn model links)
    (refused : resolvePending hierarchy model links = .error error) :
    ∃ link ∈ links,
      hierarchy.idOf? link.2 = none ∧
        error = .unknownLinkedClass model.name link.1 link.2 := by
  induction links generalizing model with
  | nil =>
      cases refused
  | cons first rest inductionHypothesis =>
      obtain ⟨property, found, pending⟩ := pendingIn.pending _ List.mem_cons_self
      rw [resolvePending] at refused
      split at refused
      · rename_i unknown
        cases refused
        exact ⟨first, List.mem_cons_self, unknown, rfl⟩
      · simp only [resolveLink_pending thawed found pending] at refused
        obtain ⟨link, member, unknown, shape⟩ :=
          inductionHypothesis (by exact thawed) pendingIn.tail refused
        exact ⟨link, List.mem_cons_of_mem _ member, unknown, shape⟩

/-- A link is pending when it belongs to an own property and has no number yet. -/
theorem mem_pendingLinks_iff
    {model : ClassModel}
    (named : model.IsNamed)
    {link : String × String} :
    link ∈ pendingLinks model ↔
      ∃ property,
        model.own.get? link.1 = some property ∧
          property.linkedClass = some (.pending link.2) := by
  rw [pendingLinks, List.mem_filterMap]
  constructor
  · rintro ⟨property, member, extracted⟩
    obtain ⟨name, found⟩ := SortedMap.mem_values_iff.mp member
    split at extracted
    · rename_i linked pending
      cases extracted
      exact ⟨property, named name property found ▸ found, pending⟩
    · cases extracted
  · rintro ⟨property, found, pending⟩
    refine ⟨property, SortedMap.mem_values_iff.mpr ⟨_, found⟩, ?_⟩
    simp [pending, named _ _ found]

theorem pendingIn_pendingLinks
    {model : ClassModel}
    (named : model.IsNamed) :
    PendingIn model (pendingLinks model) where
  distinct := by
    have ordered :
        model.own.values.Pairwise fun first second => first.name ≠ second.name := by
      refine List.pairwise_map.mpr (model.own.sorted.imp_of_mem ?_)
      intro first second firstMember secondMember less same
      have firstName := named _ _ (SortedMap.get?_eq_some_iff.mpr firstMember)
      have secondName := named _ _ (SortedMap.get?_eq_some_iff.mpr secondMember)
      exact String.ne_of_lt less (firstName.symm.trans (same.trans secondName))
    rw [pendingLinks, List.nodup_iff_pairwise_ne, List.pairwise_map, List.pairwise_filterMap]
    refine ordered.imp ?_
    intro first second different firstLink firstExtracted secondLink secondExtracted
    split at firstExtracted <;> split at secondExtracted <;> simp_all
    rw [← firstExtracted, ← secondExtracted]
    exact different
  pending _ member := (mem_pendingLinks_iff named).mp member

/-- A class that is accepted has every link of an own property resolved. -/
theorem resolveModel_ok
    {hierarchy : Hierarchy}
    {model resolved : ClassModel}
    (thawed : hierarchy.isFrozen model.id = false)
    (named : model.IsNamed)
    (accepted : resolvePending hierarchy model (pendingLinks model) = .ok resolved) :
    (∀ name property linked,
      model.own.get? name = some property →
      property.linkedClass = some (.pending linked) →
      ∃ target, hierarchy.idOf? linked = some target) ∧
      ∃ own,
        resolved = { model with own } ∧
          ∀ name, own.get? name = (model.own.get? name).map (Property.linkIn hierarchy) := by
  obtain ⟨known, own, shape, lookups⟩ :=
    resolvePending_ok thawed (pendingIn_pendingLinks named) accepted
  refine ⟨?_, own, shape, ?_⟩
  · intro name property linked found pending
    exact known (name, linked) ((mem_pendingLinks_iff named).mpr ⟨property, found, pending⟩)
  · intro name
    rw [lookups]
    cases found : model.own.get? name with
    | none =>
        rfl
    | some property =>
        by_cases isPending : name ∈ (pendingLinks model).map Prod.fst
        · simp [isPending]
        · have notPending :
              ∀ linked, property.linkedClass ≠ some (.pending linked) := by
            intro linked pending
            exact isPending (List.mem_map.mpr
              ⟨(name, linked), (mem_pendingLinks_iff named).mpr ⟨property, found, pending⟩, rfl⟩)
          have unchanged : property.linkIn hierarchy = property := by
            rw [Property.linkIn]
            split
            · rename_i linked pending
              exact absurd pending (notPending linked)
            · rfl
          simp [isPending, unchanged]

/-- Each class is resolved on its own, at its place. -/
theorem resolveLinks_ok
    {hierarchy : Hierarchy}
    {models resolved : List ClassModel}
    (accepted : resolveLinks hierarchy models = .ok resolved) :
    resolved.length = models.length ∧
      ∀ (position : Nat) (model : ClassModel),
        models[position]? = some model →
        ∃ linked,
          resolved[position]? = some linked ∧
            resolvePending hierarchy model (pendingLinks model) = .ok linked := by
  induction models generalizing resolved with
  | nil =>
      cases accepted
      simp
  | cons first rest inductionHypothesis =>
      rw [resolveLinks] at accepted
      split at accepted
      · cases accepted
      · rename_i firstResolved firstAccepted
        cases restRead : resolveLinks hierarchy rest with
        | error error =>
            rw [restRead] at accepted
            cases accepted
        | ok restResolved =>
            rw [restRead] at accepted
            cases accepted
            obtain ⟨sameLength, positions⟩ := inductionHypothesis restRead
            refine ⟨by simp [sameLength], fun position model found => ?_⟩
            cases position with
            | zero =>
                cases found
                exact ⟨firstResolved, rfl, firstAccepted⟩
            | succ position =>
                exact positions position model found

/-- What is wrong with refused links is wrong with those of one class. -/
theorem resolveLinks_error
    {hierarchy : Hierarchy}
    {models : List ClassModel}
    {error : DefinitionError}
    (refused : resolveLinks hierarchy models = .error error) :
    ∃ model ∈ models,
      resolvePending hierarchy model (pendingLinks model) = .error error := by
  induction models with
  | nil =>
      cases refused
  | cons first rest inductionHypothesis =>
      rw [resolveLinks] at refused
      split at refused
      · rename_i firstRefused
        cases refused
        exact ⟨first, List.mem_cons_self, firstRefused⟩
      · cases restRead : resolveLinks hierarchy rest with
        | error restError =>
            rw [restRead] at refused
            cases refused
            obtain ⟨model, member, modelRefused⟩ := inductionHypothesis restRead
            exact ⟨model, List.mem_cons_of_mem _ member, modelRefused⟩
        | ok restResolved =>
            rw [restRead] at refused
            cases refused

end Registry

end RecordSchema
