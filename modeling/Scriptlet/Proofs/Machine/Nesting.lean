import Scriptlet.Proofs.Machine.Reachability
import Scriptlet.Proofs.Machine.Rest

/-!
# Scopes stand in older ones

A scope is made inside of one that exists already, and it stays there. So from each scope a chain
of scopes leads outwards, every one older than the one before, and all chains end in the global
scope. Names are looked up along these chains, however functions and scopes refer to one another.
-/

namespace Scriptlet

namespace Scopes

variable {scopes after last : Scopes} {globals scope outer holder : ScopeId} {name : String}
  {value : Value}

/-- All scopes are still there and stand where they stood. -/
def KeepsPlaces (scopes after : Scopes) : Prop :=
  ∀ ⦃scope : ScopeId⦄ ⦃frame : Frame⦄, scopes.frames[scope]? = some frame →
    ∃ later, after.frames[scope]? = some later ∧ later.enclosing = frame.enclosing

/-- All links lead to scopes that exist. The global scope stands in no other, and every other scope
stands in an older one. -/
structure Nested (scopes : Scopes) (globals : ScopeId) : Prop where
  formed : scopes.WellFormed
  outermost : ∃ frame, scopes.frames[globals]? = some frame ∧ frame.enclosing = none
  alone : ∀ {scope : ScopeId} {frame : Frame}, scopes.frames[scope]? = some frame →
    frame.enclosing = none → scope = globals
  older : ∀ {scope outer : ScopeId} {frame : Frame}, scopes.frames[scope]? = some frame →
    frame.enclosing = some outer → outer < scope

/-! ## Scopes keep their places -/

/-- Scopes are where they are. -/
theorem KeepsPlaces.refl (scopes : Scopes) : scopes.KeepsPlaces scopes :=
  fun _ frame present => ⟨frame, present, rfl⟩

/-- Places that are kept twice are kept. -/
theorem KeepsPlaces.trans (first : scopes.KeepsPlaces after) (second : after.KeepsPlaces last) :
    scopes.KeepsPlaces last := by
  intro scope frame present
  obtain ⟨later, still, same⟩ := first present
  obtain ⟨final, ends, likewise⟩ := second still
  exact ⟨final, ends, likewise.trans same⟩

/-- There are no fewer scopes than before. -/
theorem KeepsPlaces.next_le (keeps : scopes.KeepsPlaces after) : scopes.next ≤ after.next := by
  refine Nat.le_of_not_lt fun fewer => ?_
  obtain ⟨frame, present⟩ : ∃ frame, scopes.frames[after.next]? = some frame :=
    ⟨_, Array.getElem?_eq_getElem fewer⟩
  obtain ⟨later, still, -⟩ := keeps present
  exact Nat.lt_irrefl _ (lt_next_of_frame still)

/-- A new scope moves none of those that are there. -/
theorem keepsPlaces_enclose (scopes : Scopes) (enclosing : Option ScopeId) :
    scopes.KeepsPlaces (scopes.enclose enclosing) := by
  intro scope frame present
  exact ⟨frame, (frame_enclose (lt_next_of_frame present) enclosing).trans present, rfl⟩

/-- Binding a name moves no scope. -/
theorem keepsPlaces_define (scopes : Scopes) (holder : ScopeId) (name : String) (value : Value) :
    scopes.KeepsPlaces (scopes.define holder name value) := by
  intro scope frame present
  obtain ⟨later, still, place, -⟩ := exists_frame_define present holder name value
  exact ⟨later, still, place⟩

theorem keepsPlaces_defineAll (scopes : Scopes) (holder : ScopeId)
    (bindings : List (String × Value)) : scopes.KeepsPlaces (scopes.defineAll holder bindings) := by
  induction bindings generalizing scopes with
  | nil => exact .refl scopes
  | cons binding rest ih => exact (keepsPlaces_define ..).trans (ih _)

theorem keepsPlaces_register (scopes : Scopes) (holder : ScopeId) :
    scopes.KeepsPlaces (scopes.register holder) := by
  unfold register
  induction Native.all generalizing scopes with
  | nil => exact .refl scopes
  | cons builtin rest ih =>
      exact (keepsPlaces_define { scopes with functions := scopes.functions + 1 } ..).trans (ih _)

/-! ## Scopes stay nested -/

/-- A new scope inside of one that exists keeps all links inside. -/
theorem WellFormed.enclose (formed : scopes.WellFormed) (exists_ : outer < scopes.next) :
    (scopes.enclose (some outer)).WellFormed := by
  refine Closed.wellFormed ?_
  rw [next_enclose]
  exact (formed.closed (Nat.le_succ _)).enclose (Nat.lt_succ_of_lt exists_)

/-- Binding parameters to values that keep scopes that exist keeps all links inside. -/
theorem WellFormed.defineAll (formed : scopes.WellFormed) {bindings : List (String × Value)}
    (keep : ∀ binding ∈ bindings, ∀ kept, binding.2.Keeps kept → kept < scopes.next) :
    (scopes.defineAll holder bindings).WellFormed := by
  refine Closed.wellFormed ?_
  rw [next_defineAll]
  exact (formed.closed (Nat.le_refl _)).defineAll keep

/-- Scopes stay nested where none are made and all keep their places. -/
theorem Nested.of_keepsPlaces (nested : scopes.Nested globals) (keeps : scopes.KeepsPlaces after)
    (made : after.next = scopes.next) (formed : after.WellFormed) : after.Nested globals := by
  -- As many scopes as before: each of them was there, and stands where it stood.
  have before {scope : ScopeId} {frame : Frame} (present : after.frames[scope]? = some frame) :
      ∃ earlier, scopes.frames[scope]? = some earlier ∧ frame.enclosing = earlier.enclosing := by
    have isOld : scope < scopes.frames.size :=
      Nat.lt_of_lt_of_eq (lt_next_of_frame present) made
    obtain ⟨later, still, same⟩ := keeps (Array.getElem?_eq_getElem isOld)
    cases present.symm.trans still
    exact ⟨_, Array.getElem?_eq_getElem isOld, same⟩
  refine ⟨formed, ?_, fun present stands => ?_, fun present stands => ?_⟩
  · obtain ⟨frame, present, stands⟩ := nested.outermost
    obtain ⟨later, still, same⟩ := keeps present
    exact ⟨later, still, same.trans stands⟩
  · obtain ⟨earlier, was, same⟩ := before present
    exact nested.alone was (same.symm.trans stands)
  · obtain ⟨earlier, was, same⟩ := before present
    exact nested.older was (same.symm.trans stands)

/-- Binding a value that keeps scopes that exist leaves scopes nested. -/
theorem Nested.define (nested : scopes.Nested globals)
    (keeps : ∀ kept, value.Keeps kept → kept < scopes.next) :
    (scopes.define holder name value).Nested globals :=
  nested.of_keepsPlaces (keepsPlaces_define ..) (next_define ..) (nested.formed.define keeps)

theorem Nested.defineAll (nested : scopes.Nested globals) {bindings : List (String × Value)}
    (keep : ∀ binding ∈ bindings, ∀ kept, binding.2.Keeps kept → kept < scopes.next) :
    (scopes.defineAll holder bindings).Nested globals :=
  nested.of_keepsPlaces (keepsPlaces_defineAll ..) (next_defineAll ..)
    (nested.formed.defineAll keep)

/-- The number of functions does not matter. -/
theorem Nested.withFunctions (nested : scopes.Nested globals) (functions : Nat) :
    Nested { scopes with functions } globals :=
  ⟨nested.formed, nested.outermost, nested.alone, nested.older⟩

/-- A new scope is younger than the one that it stands in. -/
theorem Nested.enclose (nested : scopes.Nested globals) (exists_ : outer < scopes.next) :
    (scopes.enclose (some outer)).Nested globals := by
  refine ⟨nested.formed.enclose exists_, ?_, fun present stands => ?_, fun present stands => ?_⟩
  · obtain ⟨frame, present, stands⟩ := nested.outermost
    exact ⟨frame, (frame_enclose (lt_next_of_frame present) _).trans present, stands⟩
  · rcases frame_enclose_eq present with was | ⟨-, rfl⟩
    · exact nested.alone was stands
    · cases stands
  · rcases frame_enclose_eq present with was | ⟨rfl, rfl⟩
    · exact nested.older was stands
    · cases stands
      exact exists_

/-- The global scope is nested when it is all alone. -/
theorem nested_outermost : (empty.enclose none).Nested 0 := by
  have only {scope : ScopeId} {frame : Frame}
      (present : (empty.enclose none).frames[scope]? = some frame) :
      scope = 0 ∧ frame = ⟨[], none⟩ := by
    rcases frame_enclose_eq present with was | isNew
    · cases was
    · exact isNew
  refine ⟨wellFormed_outermost, ⟨_, rfl, rfl⟩, fun present _ => (only present).1, ?_⟩
  intro scope outer frame present stands
  obtain ⟨-, rfl⟩ := only present
  cases stands

/-- Binding the native functions, which keep no scope, leaves scopes nested. -/
theorem Nested.register (nested : scopes.Nested globals) (holder : ScopeId) :
    (scopes.register holder).Nested globals :=
  nested.of_keepsPlaces (keepsPlaces_register ..) (nested.formed.register holder).2
    (nested.formed.register holder).1

/-! ## Chains of scopes -/

/-- Scopes that exist, each standing in the next one, and the last one in none. -/
inductive Chain (scopes : Scopes) : ScopeId → List ScopeId → Prop
  | outermost {scope : ScopeId} {frame : Frame} : scopes.frames[scope]? = some frame →
      frame.enclosing = none → Chain scopes scope [scope]
  | inside {scope outer : ScopeId} {frame : Frame} {rest : List ScopeId} :
      scopes.frames[scope]? = some frame → frame.enclosing = some outer →
      Chain scopes outer rest → Chain scopes scope (scope :: rest)

/-- What a name is bound to in a scope itself. -/
def boundIn? (scopes : Scopes) (name : String) (scope : ScopeId) : Option (ScopeId × Value) :=
  ((scopes.frames[scope]?).bind (·.bindings.find? name)).map fun value => (scope, value)

/-- Names are read and assigned in the first scope of a chain that binds them, and where none does
it is an error. -/
def LooksAlong (scopes : Scopes) (scope : ScopeId) (chain : List ScopeId) : Prop :=
  ∀ name, match chain.findSome? (scopes.boundIn? name) with
    | some (holder, value) => scopes.get scope name = .ok value ∧
        ∀ other, scopes.assign scope name other = .ok (scopes.define holder name other)
    | none => scopes.get scope name = .error (.undefinedVariable name) ∧
        ∀ other, scopes.assign scope name other = .error (.undefinedVariable name)

/-- From a scope that exists, scopes lead outwards to the global one, each older than the one
before. -/
theorem Nested.exists_chain (nested : scopes.Nested globals) (exists_ : scope < scopes.next) :
    ∃ chain, scopes.Chain scope chain ∧ chain.getLast? = some globals ∧
      chain.Pairwise (· > ·) ∧ ∀ member ∈ chain, member ≤ scope := by
  -- The chain of the scope outside is there already, since that scope is older.
  induction scope using Nat.strongRecOn with
  | ind scope ih =>
      have present : scopes.frames[scope]? = some scopes.frames[scope] :=
        Array.getElem?_eq_getElem exists_
      cases stands : scopes.frames[scope].enclosing with
      | none =>
          have isGlobal : scope = globals := nested.alone present stands
          subst isGlobal
          exact ⟨[scope], .outermost present stands, rfl, List.pairwise_singleton ..,
            fun _ member => Nat.le_of_eq (List.mem_singleton.mp member)⟩
      | some outer =>
          have isOlder := nested.older present stands
          obtain ⟨rest, chain, ends, falls, below⟩ :=
            ih outer isOlder (Nat.lt_trans isOlder exists_)
          have smaller (member : ScopeId) (inside : member ∈ rest) : member < scope :=
            Nat.lt_of_le_of_lt (below member inside) isOlder
          refine ⟨scope :: rest, .inside present stands chain, ?_, falls.cons smaller, ?_⟩
          · rw [List.getLast?_cons, ends]
            rfl
          · intro member inside
            rcases List.mem_cons.mp inside with rfl | later
            · exact Nat.le_refl _
            · exact Nat.le_of_lt (smaller member later)

/-- What a scope binds a name to is what its frame does. -/
theorem boundIn?_of_frame {frame : Frame} (present : scopes.frames[scope]? = some frame) :
    scopes.boundIn? name scope = (frame.bindings.find? name).map fun value => (scope, value) := by
  rw [boundIn?, present, Option.bind_some]

/-- The search for a name goes along the chain. -/
theorem Nested.nearest?_eq (nested : scopes.Nested globals) {chain : List ScopeId}
    (leads : scopes.Chain scope chain) (name : String) :
    scopes.nearest? name scope = chain.findSome? (scopes.boundIn? name) := by
  induction leads with
  | @outermost scope frame present stands =>
      rw [List.findSome?_cons, boundIn?_of_frame present]
      cases bound : frame.bindings.find? name with
      | some value => exact nearest?_of_bound present bound
      | none => exact nearest?_of_outmost present bound stands
  | @inside scope outer frame rest present stands _ ih =>
      rw [List.findSome?_cons, boundIn?_of_frame present]
      cases bound : frame.bindings.find? name with
      | some value => exact nearest?_of_bound present bound
      | none =>
          -- The search goes on only to older scopes, and here it always goes on.
          exact (nearest?_of_inside present bound stands (nested.older present stands)).trans ih

/-- **Names are looked up along chains**, wherever scopes are nested. -/
theorem Nested.looksAlong (nested : scopes.Nested globals) {chain : List ScopeId}
    (leads : scopes.Chain scope chain) : scopes.LooksAlong scope chain := by
  intro name
  have found := nested.nearest?_eq leads name
  rw [← found]
  unfold get assign
  cases scopes.nearest? name scope with
  | none => exact ⟨rfl, fun _ => rfl⟩
  | some pair => exact ⟨rfl, fun _ => rfl⟩

end Scopes

/-! ## Runs keep scopes nested -/

section

variable [Host]

/-- The scopes of a machine are nested, and the current one exists. -/
structure Machine.Nested (machine : Machine) : Prop where
  scopes : machine.scopes.Nested machine.globals
  current : machine.scope < machine.scopes.next

/-- The policy that scopes stay nested and in their places. -/
def Policy.nesting : Policy where
  admits := Machine.Nested
  leads before after :=
    before.globals = after.globals ∧ before.scopes.KeepsPlaces after.scopes
  takes machine value := ∀ kept, value.Keeps kept → kept < machine.scopes.next
  leads_refl machine := ⟨rfl, .refl machine.scopes⟩
  leads_trans first second := ⟨first.1.trans second.1, first.2.trans second.2⟩
  takes_later leads takes kept keeps := Nat.lt_of_lt_of_le (takes kept keeps) leads.2.next_le
  takes_plain := by
    rintro machine value plain kept ⟨_, _, rfl⟩
    cases plain

open Policy Machine

/-- **Single steps keep scopes nested**, and each scope in its place. -/
theorem Policy.sound_nesting : nesting.Sound where
  found admits nearest := by
    obtain ⟨frame, present, isBound⟩ := Scopes.exists_frame_of_nearest? nearest
    exact fun kept keeps => admits.scopes.formed present (.inr ⟨_, _, isBound, keeps⟩)
  define name admits takes := ⟨⟨admits.scopes.define takes, by simpa using admits.current⟩, rfl,
    Scopes.keepsPlaces_define ..⟩
  assign admits _ takes := ⟨⟨admits.scopes.define takes, by simpa using admits.current⟩, rfl,
    Scopes.keepsPlaces_define ..⟩
  function {machine} declaration admits := by
    refine ⟨⟨⟨admits.scopes.withFunctions _, admits.current⟩, rfl, .refl machine.scopes⟩, ?_⟩
    rintro kept ⟨_, _, same⟩
    cases same
    exact admits.current
  output {machine} _ admits := ⟨⟨admits.scopes, admits.current⟩, rfl, .refl machine.scopes⟩
  world {machine} _ admits := ⟨⟨admits.scopes, admits.current⟩, rfl, .refl machine.scopes⟩
  block {machine} admits := by
    have begun : machine.enterBlock.Nested :=
      ⟨admits.scopes.enclose admits.current, by simp [enterBlock]⟩
    refine ⟨begun, fun after inside => ?_⟩
    obtain ⟨nested, same, places⟩ := inside
    have keeps := (Scopes.keepsPlaces_enclose machine.scopes _).trans places
    have current := Nat.lt_of_lt_of_le admits.current keeps.next_le
    exact ⟨⟨⟨nested.scopes, current⟩, same, keeps⟩, fun _ takes => takes⟩
  body {machine identity declaration closure arguments} admits takes all := by
    have exists_ : closure < machine.scopes.next := takes closure ⟨identity, declaration, rfl⟩
    have keep (binding : String × Value) (inside : binding ∈ declaration.parameters.zip arguments)
        (kept : ScopeId) (keeps : binding.2.Keeps kept) :
        kept < (machine.scopes.enclose closure).next := by
      rw [Scopes.next_enclose]
      exact Nat.lt_succ_of_lt (all _ (List.of_mem_zip inside).2 kept keeps)
    have begun : (machine.enterBody declaration closure arguments).Nested := by
      refine ⟨(admits.scopes.enclose exists_).defineAll keep, ?_⟩
      simp [enterBody, Scopes.next_defineAll]
    refine ⟨begun, fun after inside => ?_⟩
    obtain ⟨nested, same, places⟩ := inside
    have keeps := ((Scopes.keepsPlaces_enclose machine.scopes _).trans
      (Scopes.keepsPlaces_defineAll ..)).trans places
    have current := Nat.lt_of_lt_of_le admits.current keeps.next_le
    exact ⟨⟨⟨nested.scopes, current⟩, same, keeps⟩, fun _ takes => takes⟩

namespace Machine

/-- The scopes of a fresh machine are nested. -/
theorem nested_fresh (settings : Settings) (world : World) (output : Output) :
    (fresh settings world output).Nested :=
  ⟨Scopes.nested_outermost.register 0, (wellFormed_fresh settings world output).current⟩

/-- **Scopes stand in older ones, and all of them in the global one.** However many programs were
run on a machine, and however they ended, its scopes are nested; links outwards never change. While
scopes are nested, whatever ends leaves them so and in their places. From each scope a chain of
older and older scopes leads to the global one, and names are read and assigned along it. -/
theorem nested_of_runsTo :
    (∀ (settings : Settings) (world : World) (output : Output) (machine : Machine),
      (fresh settings world output).RunsTo machine → machine.Nested ∧
        ∀ after, machine.RunsTo after →
          after.globals = machine.globals ∧ machine.scopes.KeepsPlaces after.scopes) ∧
    ∀ machine : Machine, machine.Nested →
      (∀ bound expr, (evaluate bound expr machine).Leaves fun after =>
        after.Nested ∧ machine.scopes.KeepsPlaces after.scopes) ∧
      (∀ bound statement, (execute bound statement machine).Leaves fun after =>
        after.Nested ∧ machine.scopes.KeepsPlaces after.scopes) ∧
      ∀ scope < machine.scopes.next, ∃ chain, machine.scopes.Chain scope chain ∧
        chain.getLast? = some machine.globals ∧ chain.Pairwise (· > ·) ∧
        machine.scopes.LooksAlong scope chain := by
  constructor
  · intro settings world output machine runs
    have first := atRest_fresh settings world output
    have nested : machine.Nested :=
      (sound_nesting.keeps_runsTo (nested_fresh settings world output) first runs).1
    have atRest := (resumes_of_runsTo first runs).atRest first
    refine ⟨nested, fun after more => ?_⟩
    obtain ⟨-, same, keeps⟩ := sound_nesting.keeps_runsTo nested atRest more
    exact ⟨same.symm, keeps⟩
  · intro machine nested
    refine ⟨fun bound expr => ?_, fun bound statement => ?_, fun scope exists_ => ?_⟩
    · exact (sound_nesting.keeps_evaluate nested bound expr).leaves.imp
        fun after goes => ⟨goes.1, goes.2.2⟩
    · exact (sound_nesting.keeps_execute nested bound statement).leaves.imp
        fun after goes => ⟨goes.1, goes.2.2⟩
    · obtain ⟨chain, leads, ends, falls, -⟩ := nested.scopes.exists_chain exists_
      exact ⟨chain, leads, ends, falls, nested.scopes.looksAlong leads⟩

end Machine

end

namespace Machine

/-- The theorem at a machine on which a call inside of a block failed, and for the scope that was
made for this call. -/
theorem nested_of_runsTo_interrupted :
    untouched.RunsTo interrupted ∧ interrupted.Nested ∧
      untouched.scopes.KeepsPlaces interrupted.scopes ∧
      (evaluate 2 (.reference 1 "x") interrupted).Leaves (fun after =>
        after.Nested ∧ interrupted.scopes.KeepsPlaces after.scopes) ∧
      2 < interrupted.scopes.next ∧
      ∃ chain, interrupted.scopes.Chain 2 chain ∧ chain.getLast? = some 0 ∧
        chain.Pairwise (· > ·) ∧ interrupted.scopes.LooksAlong 2 chain := by
  have runs : untouched.RunsTo interrupted := .run .refl after?_runWithin_untouched
  have nested := (nested_of_runsTo.1 ⟨false, 9⟩ (.bare []) .unlimited interrupted runs).1
  have places := (nested_of_runsTo.1 ⟨false, 9⟩ (.bare []) .unlimited untouched .refl).2 _ runs
  obtain ⟨values, -, chains⟩ := nested_of_runsTo.2 interrupted nested
  have exists_ : 2 < interrupted.scopes.next := by decide
  exact ⟨runs, nested, places.2, values 2 _, exists_, chains 2 exists_⟩

end Machine

end Scriptlet
