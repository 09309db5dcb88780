import InformerGen.Recording

/-! Computations that record obey the laws of monads. Two of them may run in parallel: started with the
same imports, whatever events have been recorded before them, they keep to the same imports all the
way. And one may keep to a property of the imports, whether it fails or not. -/
namespace InformerGen.Recording

variable {α β γ δ : Type}

instance : LawfulMonad Recording := LawfulMonad.mk' Recording
  (by
    intro α first
    funext trail
    change (first >>= fun value => pure value) trail = first trail
    rw [bind_apply]
    rcases first trail with ⟨_ | _,_⟩ <;> rfl)
  (by
    intro α β value next
    rfl)
  (by
    intro α β γ first next last
    funext trail
    simp only [bind_apply]
    rcases first trail with ⟨_ | _,_⟩ <;> rfl)

/-- Imports with the property have it after the computation too, also after one that fails. -/
def Keeps (property : ImportTracker → Prop) (computation : Recording α) : Prop :=
  ∀ trail : Trail, property trail.imports → property (computation trail).2.imports

variable {property : ImportTracker → Prop}

theorem keeps_pure (value : α) : Keeps property (pure value) := fun _ holds => holds

theorem keeps_lift (result : Except GenerationError α) : Keeps property (lift result) :=
  fun _ holds => holds

theorem Keeps.bind {first : Recording α} {next : α → Recording β} (start : Keeps property first)
    (rest : ∀ value, Keeps property (next value)) : Keeps property (first >>= next) := by
  intro trail holds
  have middle := start trail holds
  rw [bind_apply]
  rcases ran : first trail with ⟨error | value,after⟩
  · rwa [ran] at middle
  · rw [ran] at middle
    exact rest value after middle

/-- From the same imports the two fail for one reason, or one yields `left` and the other `right`; the
imports after them are the same in either case. -/
def Parallel (first : Recording α) (second : Recording β) (left : α) (right : β) : Prop :=
  ∀ one other : Trail, one.imports = other.imports →
    (first one).2.imports = (second other).2.imports ∧
      ((first one).1 = .ok left ∧ (second other).1 = .ok right ∨
        ∃ error, (first one).1 = .error error ∧ (second other).1 = .error error)

theorem parallel_pure (left : α) (right : β) :
    Parallel (pure left) (pure right) left right :=
  fun _ _ same => ⟨same,.inl ⟨rfl,rfl⟩⟩

theorem parallel_report (event other : Event) :
    Parallel (report event) (report other) () () :=
  fun _ _ same => ⟨same,.inl ⟨rfl,rfl⟩⟩

theorem parallel_reportAll (events others : List Event) :
    Parallel (reportAll events) (reportAll others) () () :=
  fun _ _ same => ⟨same,.inl ⟨rfl,rfl⟩⟩

theorem parallel_lift {result : Except GenerationError α} {value : α}
    (determined : ∀ found, result = .ok found → found = value) :
    Parallel (lift result) (lift result) value value := by
  refine fun _ _ same => ⟨same,?_⟩
  cases result with
  | error error => exact .inr ⟨error,rfl,rfl⟩
  | ok found =>
    obtain rfl := determined found rfl
    exact .inl ⟨rfl,rfl⟩

theorem parallel_recordImport (path qualifier : String) :
    Parallel (recordImport path qualifier) (recordImport path qualifier) () () := by
  rintro ⟨imports,events⟩ ⟨_,others⟩ rfl
  refine ⟨rfl,?_⟩
  unfold recordImport
  dsimp only
  cases (imports.add path qualifier).1 with
  | error error => exact .inr ⟨_,rfl,rfl⟩
  | ok => exact .inl ⟨rfl,rfl⟩

theorem Parallel.bind {first : Recording α} {second : Recording β} {left : α} {right : β}
    (start : Parallel first second left right) {next : α → Recording γ} {following : β → Recording δ}
    {last : γ} {final : δ} (rest : Parallel (next left) (following right) last final) :
    Parallel (first >>= next) (second >>= following) last final := by
  intro one other same
  obtain ⟨imports,outcome⟩ := start one other same
  rw [bind_apply,bind_apply]
  rcases ran : first one with ⟨result,middle⟩
  rcases otherRan : second other with ⟨otherResult,otherMiddle⟩
  rw [ran,otherRan] at imports outcome
  rcases outcome with ⟨rfl,rfl⟩ | ⟨error,rfl,rfl⟩
  · exact rest middle otherMiddle imports
  · exact ⟨imports,.inr ⟨error,rfl,rfl⟩⟩

end InformerGen.Recording
