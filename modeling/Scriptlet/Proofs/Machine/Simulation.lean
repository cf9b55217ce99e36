import Scriptlet.Machine.Basic

/-!
# Actions that do alike

Two actions do alike for some correspondence between machines if from corresponding machines they
end in the same way, with corresponding values or errors, and leave corresponding machines behind.
Actions that are made of such actions in the same way do alike as well.
-/

namespace Scriptlet

variable [Host]

/-- Which machines and which errors correspond to which. -/
structure Correspondence where
  machines : Machine → Machine → Prop
  errors : RuntimeError → RuntimeError → Prop

variable {like : Correspondence} {α β γ δ σ τ : Type}

/-- Two outcomes are alike: they correspond, and their values do as `values` says. -/
inductive Outcome.Alike (like : Correspondence) (values : α → β → Prop) :
    Outcome α → Outcome β → Prop
  | done {value : α} {other : β} {after final : Machine} :
      values value other → like.machines after final →
      Outcome.Alike like values (.done value after) (.done other final)
  | failed {error other : RuntimeError} {after final : Machine} :
      like.errors error other → like.machines after final →
      Outcome.Alike like values (.failed error after) (.failed other final)
  | unfinished : Outcome.Alike like values .unfinished .unfinished

/-- Two actions do alike. -/
def Action.Alike (like : Correspondence) (values : α → β → Prop) (action : Action α)
    (other : Action β) : Prop :=
  ∀ ⦃machine final : Machine⦄, like.machines machine final →
    (action machine).Alike like values (other final)

namespace Action

variable {values : α → β → Prop} {results : γ → δ → Prop} {action : Action α} {other : Action β}

/-- Actions whose bounds are used up do alike. -/
theorem alike_exhausted : (exhausted : Action α).Alike like values exhausted :=
  fun _ _ _ => .unfinished

/-- Values that correspond are given alike. -/
theorem alike_pure {value : α} {result : β} (same : values value result) :
    (pure value : Action α).Alike like values (pure result) :=
  fun _ _ corresponds => .done same corresponds

/-- Failures that correspond are alike. -/
theorem alike_fail {line final : Nat} {fault : Fault}
    (same : like.errors ⟨line, fault⟩ ⟨final, fault⟩) :
    (fail line fault : Action α).Alike like values (fail final fault) :=
  fun _ _ corresponds => .failed same corresponds

/-- What is seen of machines that correspond is alike where it corresponds. -/
theorem alike_inspect {view : Machine → α} {glance : Machine → β}
    (same : ∀ machine final, like.machines machine final → values (view machine) (glance final)) :
    (inspect view).Alike like values (inspect glance) :=
  fun machine final corresponds => .done (same machine final corresponds) corresponds

/-- One action after another one does alike if both parts do. -/
theorem alike_bind {next : α → Action γ} {follow : β → Action δ}
    (first : action.Alike like values other)
    (second : ∀ value result, values value result →
      (next value).Alike like results (follow result)) :
    (action >>= next).Alike like results (other >>= follow) := by
  intro machine final corresponds
  have answer := first corresponds
  rw [bind_apply, bind_apply]
  generalize action machine = ended, other final = last at answer ⊢
  cases answer with
  | done same corresponds => exact second _ _ same corresponds
  | failed same corresponds => exact .failed same corresponds
  | unfinished => exact .unfinished

/-- Where one value is what a view makes of the other, so is what follows. -/
theorem alike_bind_view {view : α → β} {next : α → Action γ} {follow : β → Action δ}
    (first : action.Alike like (fun value result => result = view value) other)
    (second : ∀ value, (next value).Alike like results (follow (view value))) :
    (action >>= next).Alike like results (other >>= follow) := by
  refine alike_bind first fun value result same => ?_
  rw [same]
  exact second value

/-- Outcomes stay alike where something is made of their values. -/
theorem alike_map {view : α → γ} {glance : β → δ} {machine final : Machine}
    (alike : (action machine).Alike like values (other final))
    (same : ∀ value result, values value result → results (view value) (glance result)) :
    ((view <$> action) machine).Alike like results ((glance <$> other) final) := by
  rw [← bind_pure_comp, ← bind_pure_comp, bind_apply, bind_apply]
  generalize action machine = ended, other final = last at alike ⊢
  cases alike with
  | done given corresponds => exact .done (same _ _ given) corresponds
  | failed given corresponds => exact .failed given corresponds
  | unfinished => exact .unfinished

/-- Outcomes stay alike where the machines are changed alike at the end. -/
theorem alike_ending {finish last : Machine → Machine} {machine final : Machine}
    (alike : (action machine).Alike like values (other final))
    (same : ∀ after behind, like.machines after behind →
      like.machines (finish after) (last behind)) :
    (action.ending finish machine).Alike like values (other.ending last final) := by
  unfold ending
  generalize action machine = ended, other final = answer at alike ⊢
  cases alike with
  | done given corresponds => exact .done given (same _ _ corresponds)
  | failed given corresponds => exact .failed given (same _ _ corresponds)
  | unfinished => exact .unfinished

/-- A search among items and one among the items that correspond to them. -/
theorem alike_findFirst {search : σ → Action (Option α)} {quest : τ → Action (Option β)}
    {view : σ → τ} {items : List σ}
    (alike : ∀ item ∈ items, (search item).Alike like (Option.Rel values) (quest (view item))) :
    (findFirst search items).Alike like (Option.Rel values) (findFirst quest (items.map view)) := by
  induction items with
  | nil => exact fun _ _ corresponds => .done .none corresponds
  | cons item rest ih =>
      rw [List.map_cons, findFirst_cons, findFirst_cons]
      refine alike_bind (alike item List.mem_cons_self) fun _ _ same => ?_
      cases same with
      | some same => exact alike_pure (.some same)
      | none => exact ih fun item inside => alike item (.tail _ inside)

/-- Loops do alike if their bodies do, in as many rounds. -/
theorem alike_repeatUntil {body : Action (Option α)} {round : Action (Option β)}
    (alike : body.Alike like (Option.Rel values) round) (bound : Nat) :
    (repeatUntil body bound).Alike like values (repeatUntil round bound) := by
  induction bound with
  | zero => exact fun _ _ _ => .unfinished
  | succ bound ih =>
      rw [repeatUntil_succ, repeatUntil_succ]
      refine alike_bind alike fun _ _ same => ?_
      cases same with
      | some same => exact alike_pure same
      | none => exact ih

/-- The values of an action on each of some items, where each corresponds to one value. -/
theorem alike_collect {each : σ → Action α} {every : τ → Action β} {view : σ → τ} {glance : α → β}
    {items : List σ}
    (alike : ∀ item ∈ items,
      (each item).Alike like (fun value result => result = glance value) (every (view item))) :
    (collect each items).Alike like (fun values results => results = values.map glance)
      (collect every (items.map view)) := by
  induction items with
  | nil => exact alike_pure rfl
  | cons item rest ih =>
      have others := ih fun item inside => alike item (.tail _ inside)
      refine alike_bind (alike item List.mem_cons_self) fun value _ same => ?_
      refine alike_bind others fun values _ all => alike_pure ?_
      rw [same, all, List.map_cons]

end Action

end Scriptlet
