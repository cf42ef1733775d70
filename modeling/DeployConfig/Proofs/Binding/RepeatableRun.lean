/-
  Runs over a repeatable collection.

  A collection can be declared in five ways, and the form of a declaration decides whether it
  replaces the items, adds to them or does neither.  `Step.effect` says what a declaration does
  without looking at the collection: it fails, or it has one of three effects.  Applying the
  declaration does exactly that (`Step.apply_eq`), and a run over declarations, of which some may
  fail, leaves the items of the last one that replaces and those that were added after it.
-/
import DeployConfig.Binding.Repeatable

namespace DeployConfig

namespace Repeatable

variable {T : Type} [Bindable T]

/-! ## Declarations -/

/-- A declaration of items. -/
inductive Step where
  | append (block : Block)
  | replaceWithList (blocks : List Block)
  | replaceWithBlock (block : Block) (singular : String)
  | replace (field : Field) (singular : String)
  | extend (field : Field)

/-- The collection after a declaration, or why it fails. -/
def Step.apply (c : Repeatable T) : Step → Except BindError (Repeatable T)
  | .append block => c.append block
  | .replaceWithList blocks => c.replaceWithList blocks
  | .replaceWithBlock block singular => c.replaceWithBlock block singular
  | .replace field singular => c.replace field singular
  | .extend field => c.extend field

/-- What a declaration leaves, failed or not. -/
def after (c : Repeatable T) (step : Step) : Outcome (Repeatable T) := .ofExcept c (step.apply c)

/-- The collection after some declarations in turn, of which any may fail. -/
def run (c : Repeatable T) (steps : List Step) : Repeatable T :=
  steps.foldl (fun d step => (d.after step).target) c

/-! ## What a declaration does -/

/-- What a declaration that does not fail does to a collection. -/
inductive Effect (T : Type) where
  /-- The items become the given ones. -/
  | replaces (items : List T)
  /-- The given items are added behind the others. -/
  | appends (items : List T)
  /-- The collection stays as it is, undeclared if it was. -/
  | keeps

/-- A collection after an effect. -/
def Effect.on (c : Repeatable T) : Effect T → Repeatable T
  | .replaces items => ⟨some items⟩
  | .appends items => ⟨some (c.toList ++ items)⟩
  | .keeps => c

/-- The items that a field carries. -/
def carried (field : Field) : Except BindError (List T) := field.blocks.bind (Bindable.bindAll T)

/-- The items of one child of a plural block: any number of them under the singular name, and one
    under any other name. -/
def childItems (singular : String) (child : String × Value) : Except BindError (List T) :=
  let field : Field := ⟨Bindable.kind T, child.1, child.2⟩
  if child.1 = singular then carried field
  else (field.block.bind (Bindable.bind T)).map fun item => [item]

/-- The names and the items of all children of a plural block. -/
def boundChildren (singular : String) (block : Block) :
    Except BindError (List (String × List T)) :=
  block.mapM fun child => (childItems singular child).map fun items => (child.1, items)

/-- A plural block with a child of another than the singular name replaces the items by those of
    all such children.  Otherwise the items of its children are added, if there are any. -/
def pluralEffect (singular : String) (found : List (String × List T)) : Effect T :=
  if found.any (·.1 != singular) then
    .replaces ((found.filter (·.1 != singular)).flatMap Prod.snd)
  else if (found.flatMap Prod.snd).isEmpty then .keeps
  else .appends (found.flatMap Prod.snd)

/-- What a declaration does, whatever the collection is. -/
def Step.effect : Step → Except BindError (Effect T)
  | .append block => (Bindable.bind T block).map fun item => .appends [item]
  | .replaceWithList blocks => (Bindable.bindAll T blocks).map .replaces
  | .replaceWithBlock block singular => (boundChildren singular block).map (pluralEffect singular)
  | .replace field singular =>
    match field.value with
    | .block entries => (boundChildren singular entries).map (pluralEffect singular)
    | .list _ => (carried field).map .replaces
    | _ => field.mismatch .blockOrListOfBlocks
  | .extend field => (carried field).map .appends

/-! ## Plural blocks -/

theorem boundChildren_cons (singular : String) (child : String × Value) (rest : Block) :
    (boundChildren singular (child :: rest) : Except BindError (List (String × List T))) =
      (childItems singular child).bind fun items =>
        (boundChildren singular rest).map fun found => (child.1, items) :: found := by
  simp only [boundChildren, List.mapM_cons]
  cases (childItems singular child : Except BindError (List T)) <;> rfl

/-- The first child of a plural block adds to the children that have its kind of name. -/
theorem children_cons (singular : String) (child : String × Value) (rest : Block) :
    (children singular (child :: rest) : Except BindError (Children T)) =
      (childItems singular child).bind fun items =>
        (children singular rest).map fun others =>
          if child.1 = singular then { others with appended := items ++ others.appended }
          else { others with named := items ++ others.named } := by
  obtain ⟨name, value⟩ := child
  simp only [children, childItems, carried]
  by_cases same : name = singular
  · simp only [same, beq_self_eq_true, if_true]
    cases Field.blocks ⟨Bindable.kind T, singular, value⟩ with
    | error e => rfl
    | ok blocks =>
      show (Bindable.bindAll T blocks).bind _ = (Bindable.bindAll T blocks).bind _
      congr 1
  · simp only [beq_iff_eq, same, if_false]
    cases Field.block ⟨Bindable.kind T, name, value⟩ with
    | error e => rfl
    | ok entries =>
      show (Bindable.bind T entries).bind _ = ((Bindable.bind T entries).map _).bind _
      cases Bindable.bind T entries <;> rfl

/-- The children of a plural block are its bound children, parted by name. -/
theorem children_eq (singular : String) (block : Block) :
    (children singular block : Except BindError (Children T)) =
      (boundChildren singular block).map fun found =>
        ⟨(found.filter (·.1 == singular)).flatMap Prod.snd,
          (found.filter (·.1 != singular)).flatMap Prod.snd⟩ := by
  induction block with
  | nil => rfl
  | cons child rest ih =>
    rw [children_cons, boundChildren_cons, ih]
    cases (childItems singular child : Except BindError (List T)) with
    | error e => rfl
    | ok items =>
      cases (boundChildren singular rest : Except BindError (List (String × List T))) with
      | error e => rfl
      | ok found => by_cases same : child.1 = singular <;> simp [Except.bind, Except.map, same]

/-- A child of another than the singular name is one item. -/
theorem ne_nil_of_mem_boundChildren {singular : String} {block : Block}
    {found : List (String × List T)} (bound : boundChildren singular block = .ok found)
    {entry : String × List T} (member : entry ∈ found) (other : entry.1 ≠ singular) :
    entry.2 ≠ [] := by
  induction block generalizing found with
  | nil =>
    cases bound
    cases member
  | cons child rest ih =>
    rw [boundChildren_cons] at bound
    cases first : (childItems singular child : Except BindError (List T)) with
    | error e => simp [first, Except.bind] at bound
    | ok items =>
      cases later : (boundChildren singular rest : Except BindError (List (String × List T))) with
      | error e => simp [first, later, Except.bind, Except.map] at bound
      | ok others =>
        simp only [first, later, Except.bind, Except.map, Except.ok.injEq] at bound
        subst bound
        rcases List.mem_cons.1 member with rfl | member
        · -- The child is a block, whose item is the only one.
          simp only [childItems, if_neg other] at first
          cases one : (Field.block ⟨Bindable.kind T, child.1, child.2⟩).bind (Bindable.bind T) with
          | error e => simp [one, Except.map] at first
          | ok item =>
            rw [one] at first
            cases first
            exact List.cons_ne_nil item []
        · exact ih later member

/-- What a collection adopts from the children of a plural block is their effect. -/
theorem adopt_eq (c : Repeatable T) {singular : String} {block : Block}
    {found : List (String × List T)} (bound : boundChildren singular block = .ok found) :
    c.adopt ⟨(found.filter (·.1 == singular)).flatMap Prod.snd,
      (found.filter (·.1 != singular)).flatMap Prod.snd⟩ = (pluralEffect singular found).on c := by
  simp only [adopt, pluralEffect]
  cases others : found.any (·.1 != singular) with
  | true =>
    -- A child of another name brings an item of its own, so the named items are not empty.
    obtain ⟨entry, member, other⟩ := List.any_eq_true.1 others
    have some_item : (found.filter (·.1 != singular)).flatMap Prod.snd ≠ [] := by
      intro none_item
      refine ne_nil_of_mem_boundChildren bound member (by simpa using other) ?_
      exact List.flatMap_eq_nil_iff.1 none_item entry (List.mem_filter.2 ⟨member, other⟩)
    simp only [List.isEmpty_eq_false_iff.2 some_item, Bool.not_false, if_true]
    rfl
  | false =>
    have all_singular : ∀ entry ∈ found, entry.1 = singular := by
      intro entry member
      simpa using List.any_eq_false.1 others entry member
    have no_other : found.filter (·.1 != singular) = [] :=
      List.filter_eq_nil_iff.2 fun entry member => by simp [all_singular entry member]
    have everyone : found.filter (·.1 == singular) = found :=
      List.filter_eq_self.2 fun entry member => by simp [all_singular entry member]
    rw [no_other, everyone]
    cases empty : (found.flatMap Prod.snd).isEmpty <;> rfl

theorem replaceWithBlock_eq (c : Repeatable T) (block : Block) (singular : String) :
    c.replaceWithBlock block singular =
      ((boundChildren singular block).map (pluralEffect singular)).map (Effect.on c) := by
  rw [replaceWithBlock, children_eq]
  cases bound : (boundChildren singular block : Except BindError (List (String × List T))) with
  | error e => rfl
  | ok found => exact congrArg Except.ok (adopt_eq c bound)

/-! ## One declaration -/

/-- **A declaration has its effect on the collection, or fails for every collection.** -/
theorem Step.apply_eq (c : Repeatable T) (step : Step) :
    step.apply c = step.effect.map (Effect.on c) := by
  cases step with
  | append block =>
    show (Bindable.bind T block).map _ = ((Bindable.bind T block).map _).map _
    cases Bindable.bind T block <;> rfl
  | replaceWithList blocks =>
    show (Bindable.bindAll T blocks).map _ = ((Bindable.bindAll T blocks).map _).map _
    cases Bindable.bindAll T blocks <;> rfl
  | replaceWithBlock block singular => exact replaceWithBlock_eq c block singular
  | extend field =>
    simp only [apply, Repeatable.extend, effect, carried]
    cases field.blocks with
    | error e => rfl
    | ok blocks =>
      show (Bindable.bindAll T blocks).bind _ = ((Bindable.bindAll T blocks).map _).map _
      cases Bindable.bindAll T blocks <;> rfl
  | replace field singular =>
    obtain ⟨kind, name, value⟩ := field
    cases value with
    | block entries => exact replaceWithBlock_eq c entries singular
    | list values =>
      simp only [apply, Repeatable.replace, effect, carried]
      cases Field.blocks ⟨kind, name, .list values⟩ with
      | error e => rfl
      | ok blocks =>
        show (Bindable.bindAll T blocks).map _ = ((Bindable.bindAll T blocks).map _).map _
        cases Bindable.bindAll T blocks <;> rfl
    | string _ | integer _ | float _ | boolean _ => rfl

/-- A declaration that fails leaves the collection as it was. -/
theorem after_of_failed (c : Repeatable T) {step : Step} {e : BindError}
    (failed : (step.effect : Except BindError (Effect T)) = .error e) :
    c.after step = ⟨c, some e⟩ := by
  simp only [after, Step.apply_eq, failed, Except.map, Outcome.ofExcept]

/-- A declaration that succeeds leaves its effect. -/
theorem after_of_ok (c : Repeatable T) {step : Step} {effect : Effect T}
    (done : step.effect = .ok effect) : c.after step = ⟨effect.on c, none⟩ := by
  simp only [after, Step.apply_eq, done, Except.map, Outcome.ofExcept]

/-! ## Runs -/

/-- Whether a declaration succeeds and replaces the items, and by which ones. -/
def Step.Replaces (step : Step) (items : List T) : Prop := step.effect = .ok (.replaces items)

/-- The items that a declaration adds, none if it fails or does something else. -/
def Step.added (step : Step) : List T :=
  match (step.effect : Except BindError (Effect T)) with
  | .ok (.appends items) => items
  | _ => []

/-- A declaration that does not replace the items adds to them. -/
theorem toList_after_of_not_replaces (c : Repeatable T) {step : Step}
    (kept : ∀ items : List T, ¬step.Replaces items) :
    (c.after step).target.toList = c.toList ++ step.added := by
  cases done : (step.effect : Except BindError (Effect T)) with
  | error e => simp [after_of_failed c done, Step.added, done]
  | ok effect =>
    rw [after_of_ok c done, Step.added, done]
    cases effect with
    | replaces items => exact absurd done (kept items)
    | appends items => rfl
    | keeps => exact (List.append_nil _).symm

/-- From any collection on, a run leaves the items of the last replacing declaration and what was
    added after it, or adds to the items that there were. -/
theorem toList_run (c : Repeatable T) (steps : List Step) :
    (∃ before step after, ∃ items : List T, steps = before ++ step :: after ∧
      step.Replaces items ∧ (∀ later ∈ after, ∀ others : List T, ¬later.Replaces others) ∧
      (c.run steps).toList = items ++ after.flatMap Step.added) ∨
    ((∀ step ∈ steps, ∀ items : List T, ¬step.Replaces items) ∧
      (c.run steps).toList = c.toList ++ steps.flatMap Step.added) := by
  induction steps generalizing c with
  | nil => exact .inr ⟨by simp, by simp [run]⟩
  | cons step rest ih =>
    have next : c.run (step :: rest) = (c.after step).target.run rest := rfl
    rcases ih (c.after step).target with
      ⟨before, last, after, items, rfl, replaces, final, same⟩ | ⟨none_replaces, same⟩
    · exact .inl ⟨step :: before, last, after, items, rfl, replaces, final, next ▸ same⟩
    · -- Nothing replaces the items any more, so this is the last declaration that can.
      by_cases replaces : ∃ items : List T, step.Replaces items
      · obtain ⟨items, replaces⟩ := replaces
        refine .inl ⟨[], step, rest, items, rfl, replaces, none_replaces, ?_⟩
        rw [next, same, after_of_ok c replaces]
        rfl
      · have kept (items : List T) : ¬step.Replaces items := fun h => replaces ⟨items, h⟩
        refine .inr ⟨?_, ?_⟩
        · intro other member
          rcases List.mem_cons.1 member with rfl | member
          · exact kept
          · exact none_replaces other member
        · rw [next, same, toList_after_of_not_replaces c kept, List.flatMap_cons,
            List.append_assoc]

/-- **The merge policy.**  A declaration fails for every collection or for none; if it fails, it
    leaves the collection as it was, and otherwise it has its effect.  After any run from an
    undeclared collection, the items are those of the last declaration that succeeded in replacing
    them, followed in order by the ones that were added after it; if there is no such declaration,
    they are just the ones that were added. -/
theorem merge_policy :
    (∀ (c : Repeatable T) (step : Step),
      (∃ e, (step.effect : Except BindError (Effect T)) = .error e ∧ c.after step = ⟨c, some e⟩) ∨
      (∃ effect, step.effect = .ok effect ∧ c.after step = ⟨effect.on c, none⟩)) ∧
    (∀ steps : List Step,
      (∃ before step after, ∃ items : List T, steps = before ++ step :: after ∧
        step.Replaces items ∧ (∀ later ∈ after, ∀ others : List T, ¬later.Replaces others) ∧
        (run {} steps).toList = items ++ after.flatMap Step.added) ∨
      ((∀ step ∈ steps, ∀ items : List T, ¬step.Replaces items) ∧
        (run {} steps : Repeatable T).toList = steps.flatMap Step.added)) := by
  constructor
  · intro c step
    cases done : (step.effect : Except BindError (Effect T)) with
    | error e => exact .inl ⟨e, rfl, after_of_failed c done⟩
    | ok effect => exact .inr ⟨effect, rfl, after_of_ok c done⟩
  · intro steps
    exact toList_run {} steps

end Repeatable

end DeployConfig
