import Scriptlet.Proofs.Machine.ComparedEvaluation
import Scriptlet.Proofs.Machine.Reachability

/-!
# A scope that stays empty

A scope in which nothing is ever bound may be left out. Without it there are the same scopes
otherwise, those that are newer with the number before theirs, and what stood inside of it stands
inside of the scope around it. Functions keep the scopes with these numbers, and a name means the
same in each scope, since none is found in the one that is left out. So two machines of which one
has such a scope do the same, unless something is declared in it.
-/

namespace Scriptlet

variable {place : ScopeId → ScopeId}

/-! ## Values and frames with other numbers of scopes -/

/-- A value with another number for the scope that it keeps. -/
def Value.mapScope (place : ScopeId → ScopeId) : Value → Value
  | .function (.declared identity declaration scope) =>
    .function (.declared identity declaration (place scope))
  | value => value

namespace Value

variable {value : Value}

/-- With another number for its scope, a value is the same function or no function. -/
theorem resembles_mapScope (place : ScopeId → ScopeId) (value : Value) :
    value.Resembles (value.mapScope place) := by
  cases value with
  | function callee =>
      cases callee with
      | declared => exact .declared
      | native => exact .same
  | _ => exact .same

/-- What is no function keeps no scope to be numbered. -/
theorem mapScope_of_isPlain (plain : value.isPlain = true) : value.mapScope place = value := by
  cases value with
  | function => cases plain
  | _ => rfl

/-- A value is the same where the scopes that it keeps have the same numbers. -/
theorem mapScope_eq_self (same : ∀ kept, value.Keeps kept → place kept = kept) :
    value.mapScope place = value := by
  cases value with
  | function callee =>
      cases callee with
      | declared identity declaration scope =>
          rw [mapScope, same scope ⟨identity, declaration, rfl⟩]
      | native => rfl
  | _ => rfl

end Value

/-- Two frames bind the same names, to the same values and in the same place but for the numbers of
scopes. -/
structure Frame.Moves (place : ScopeId → ScopeId) (frame other : Frame) : Prop where
  values (name : String) :
    other.bindings.find? name = (frame.bindings.find? name).map (·.mapScope place)
  enclosing : other.enclosing = frame.enclosing.map place

namespace Frame.Moves

variable {frame other : Frame}

/-- A frame all of whose links have the same numbers moves to itself. -/
theorem of_links (same : ∀ scope, frame.LinksTo scope → place scope = scope) :
    frame.Moves place frame where
  values name := by
    cases bound : frame.bindings.find? name with
    | none => rfl
    | some value =>
        rw [Option.map_some, Value.mapScope_eq_self]
        exact fun kept keeps => same kept (.inr ⟨name, value, bound, keeps⟩)
  enclosing := by
    cases stands : frame.enclosing with
    | none => rfl
    | some outer => rw [Option.map_some, same outer (.inl stands)]

/-- Binding a name in both frames keeps them the same. -/
theorem set (moves : frame.Moves place other) (name : String) (value : Value) :
    Frame.Moves place { frame with bindings := frame.bindings.set name value }
      { other with bindings := other.bindings.set name (value.mapScope place) } where
  values key := by
    by_cases same : key = name
    · subst same
      rw [Bindings.find?_set_self, Bindings.find?_set_self, Option.map_some]
    · rw [Bindings.find?_set_of_ne same, Bindings.find?_set_of_ne same, moves.values key]
  enclosing := moves.enclosing

end Frame.Moves

/-! ## Leaving a scope out -/

/-- A scope that is to stay empty, and an older one that it stands inside of. -/
structure Hollow where
  scope : Nat
  outer : Nat
  older : outer < scope

namespace Hollow

variable {hollow : Hollow} {scope other holder : Nat}

/-- The number of a scope where the empty one is left out. For that one, it is the scope around. -/
def skip (hollow : Hollow) (scope : Nat) : Nat :=
  if scope < hollow.scope then scope
  else if scope = hollow.scope then hollow.outer
  else scope - 1

/-- Scopes older than the empty one keep their numbers. -/
theorem skip_of_lt (isOlder : scope < hollow.scope) : hollow.skip scope = scope := if_pos isOlder

/-- What stands in the empty scope stands in the one around it. -/
theorem skip_self : hollow.skip hollow.scope = hollow.outer := by
  rw [skip, if_neg (Nat.lt_irrefl _), if_pos rfl]

/-- Scopes newer than the empty one have the number before theirs. -/
theorem skip_succ (isNewer : hollow.scope ≤ scope) : hollow.skip (scope + 1) = scope := by
  rw [skip, if_neg (by omega), if_neg (by omega), Nat.add_sub_cancel]

/-- No two of the other scopes get the same number. -/
theorem skip_inj (here : scope ≠ hollow.scope) (there : other ≠ hollow.scope) :
    hollow.skip scope = hollow.skip other ↔ scope = other := by
  unfold skip
  split <;> split <;> omega

/-- Which of two scopes is older stays the same, unless only the one that is said to be the newer is
older than the empty one. -/
theorem skip_lt_iff (here : scope ≠ hollow.scope)
    (inside : scope < hollow.scope → other < hollow.scope) :
    hollow.skip other < hollow.skip scope ↔ other < scope := by
  have older := hollow.older
  unfold skip
  split <;> split <;> (try split) <;> omega

/-- The second scopes are the first without the empty one. -/
structure LeftOut (hollow : Hollow) (scopes others : Scopes) : Prop where
  next : scopes.next = others.next + 1
  functions : others.functions = scopes.functions
  empty : scopes.frames[hollow.scope]? = some ⟨[], some hollow.outer⟩
  frames {scope : ScopeId} : scope ≠ hollow.scope →
    Option.Rel (Frame.Moves hollow.skip) scopes.frames[scope]? others.frames[hollow.skip scope]?
  inside {scope outer : ScopeId} {frame : Frame} : scope < hollow.scope →
    scopes.frames[scope]? = some frame → frame.enclosing = some outer → outer < hollow.scope

namespace LeftOut

variable {scopes others : Scopes} {name : String} {value : Value}

/-- The empty scope has been made already. -/
theorem made (leftOut : hollow.LeftOut scopes others) : hollow.scope < scopes.next :=
  Scopes.lt_next_of_frame leftOut.empty

/-- The next scope to be made in one run is the next one in the other. -/
theorem skip_next (leftOut : hollow.LeftOut scopes others) :
    hollow.skip scopes.next = others.next := by
  rw [leftOut.next]
  refine skip_succ (Nat.le_of_lt_succ ?_)
  rw [← Nat.add_one, ← leftOut.next]
  exact leftOut.made

/-- A new scope in both runs leaves the empty one left out. -/
theorem enclose (leftOut : hollow.LeftOut scopes others) (outer : ScopeId) :
    hollow.LeftOut (scopes.enclose outer) (others.enclose (hollow.skip outer)) where
  next := by rw [Scopes.next_enclose, Scopes.next_enclose, leftOut.next]
  functions := leftOut.functions
  empty := by rw [Scopes.frame_enclose leftOut.made, leftOut.empty]
  frames {scope} besides := by
    have sameNumber := skip_inj besides (Nat.ne_of_gt leftOut.made)
    rw [leftOut.skip_next] at sameNumber
    simp only [Scopes.next] at sameNumber
    simp only [Scopes.enclose, Array.getElem?_push, sameNumber]
    split
    · exact .some ⟨fun _ => rfl, rfl⟩
    · exact leftOut.frames besides
  inside {scope outer frame} isOlder present stands := by
    rw [Scopes.frame_enclose (Nat.lt_trans isOlder leftOut.made)] at present
    exact leftOut.inside isOlder present stands

/-- A binding in both runs leaves the empty scope left out, if it is made in another one. -/
theorem define (leftOut : hollow.LeftOut scopes others) (besides : holder ≠ hollow.scope)
    (name : String) (value : Value) :
    hollow.LeftOut (scopes.define holder name value)
      (others.define (hollow.skip holder) name (value.mapScope hollow.skip)) where
  next := by rw [Scopes.next_define, Scopes.next_define, leftOut.next]
  functions := leftOut.functions
  empty := by rw [Scopes.frame_define_of_ne (Ne.symm besides), leftOut.empty]
  frames {scope} outside := by
    have same := leftOut.frames outside
    by_cases here : scope = holder
    · subst here
      rw [Scopes.frame_define_self, Scopes.frame_define_self]
      generalize scopes.frames[scope]? = present, others.frames[hollow.skip scope]? = moved
        at same ⊢
      cases same with
      | none => exact .none
      | some moves => exact .some (moves.set name value)
    · have there : hollow.skip scope ≠ hollow.skip holder := by rwa [Ne, skip_inj outside besides]
      rw [Scopes.frame_define_of_ne here, Scopes.frame_define_of_ne there]
      exact same
  inside {scope outer frame} isOlder present stands := by
    by_cases here : scope = holder
    · subst here
      rw [Scopes.frame_define_self] at present
      obtain ⟨before, was, rfl⟩ := Option.map_eq_some_iff.mp present
      exact leftOut.inside isOlder was stands
    · rw [Scopes.frame_define_of_ne here] at present
      exact leftOut.inside isOlder present stands

theorem defineAll (leftOut : hollow.LeftOut scopes others) (besides : holder ≠ hollow.scope)
    (names : List String) (values : List Value) :
    hollow.LeftOut (scopes.defineAll holder (names.zip values))
      (others.defineAll (hollow.skip holder)
        (names.zip (values.map (·.mapScope hollow.skip)))) := by
  induction names generalizing scopes others values with
  | nil => exact leftOut
  | cons name names ih =>
      cases values with
      | nil => exact leftOut
      | cons value values => exact ih (leftOut.define besides name value) values

/-- A name means the same in each scope, also in the empty one. -/
theorem nearest? (leftOut : hollow.LeftOut scopes others) (name : String) (scope : ScopeId) :
    others.nearest? name (hollow.skip scope) = (scopes.nearest? name scope).map
      fun (holder, value) => (hollow.skip holder, value.mapScope hollow.skip) := by
  induction scope using Nat.strongRecOn with
  | ind scope ih =>
      by_cases besides : scope = hollow.scope
      · -- Nothing is found in the empty scope, and the search goes on in the one around it.
        subst besides
        have around := ih hollow.outer hollow.older
        rw [skip_of_lt hollow.older] at around
        rw [skip_self, around, Scopes.nearest?.eq_def scopes name hollow.scope, leftOut.empty]
        simp only [Bindings.find?, List.lookup_nil, hollow.older, ↓reduceIte]
      · have same := leftOut.frames besides
        have inside := @leftOut.inside scope
        rw [Scopes.nearest?, Scopes.nearest?.eq_def scopes]
        generalize scopes.frames[scope]? = present, others.frames[hollow.skip scope]? = moved
          at same inside ⊢
        cases same with
        | none => rfl
        | @some frame other moves =>
            simp only [moves.values, moves.enclosing]
            cases frame.bindings.find? name with
            | some value => rfl
            | none =>
                cases stands : frame.enclosing with
                | none => rfl
                | some outer =>
                    have older := skip_lt_iff besides fun isOlder => inside isOlder rfl stands
                    simp only [Option.map_none, Option.map_some, older]
                    split
                    · next isOlder => exact ih outer isOlder
                    · rfl

/-- No name is found in the empty scope. -/
theorem ne_of_nearest? (leftOut : hollow.LeftOut scopes others)
    (found : scopes.nearest? name scope = some (holder, value)) : holder ≠ hollow.scope := by
  rintro rfl
  obtain ⟨frame, present, bound⟩ := Scopes.exists_frame_of_nearest? found
  cases leftOut.empty.symm.trans present
  cases bound

/-- A name has the same value in each scope, but for the numbers of scopes. -/
theorem get (leftOut : hollow.LeftOut scopes others) (scope : ScopeId) (name : String) :
    others.get (hollow.skip scope) name = (scopes.get scope name).map (·.mapScope hollow.skip) := by
  rw [Scopes.get, Scopes.get, leftOut.nearest?]
  cases scopes.nearest? name scope <;> rfl

/-- A function made in both runs has the same number, and scopes that correspond. -/
theorem newFunction (leftOut : hollow.LeftOut scopes others) (declaration : Declaration)
    (scope : ScopeId) :
    hollow.LeftOut (scopes.newFunction declaration scope).2
        (others.newFunction declaration (hollow.skip scope)).2 ∧
      (others.newFunction declaration (hollow.skip scope)).1 =
        (scopes.newFunction declaration scope).1.mapScope hollow.skip := by
  constructor
  · exact { leftOut with functions := congrArg (· + 1) leftOut.functions }
  · rw [Scopes.newFunction, Scopes.newFunction, leftOut.functions]
    rfl

end LeftOut

/-! ## Machines without the scope -/

variable [Host]

/-- Two machines are the same, but that the second does not have the empty scope. The first stands
in a scope of which `stands` holds. -/
structure Corresponds (hollow : Hollow) (stands : ScopeId → Prop) (machine other : Machine) :
    Prop where
  settings : other.settings = machine.settings
  globals : other.globals = machine.globals
  depth : other.depth = machine.depth
  world : other.world = machine.world
  output : other.output = machine.output
  scopes : hollow.LeftOut machine.scopes other.scopes
  scope : other.scope = hollow.skip machine.scope
  stands : stands machine.scope

/-- Machines that correspond, and values that are the same but for the numbers of scopes. -/
def comparison (hollow : Hollow) (stands : ScopeId → Prop) : Comparison Unit where
  leads _ _ := True
  machines _ := hollow.Corresponds stands
  values _ value other := other = value.mapScope hollow.skip
  leads_refl _ := trivial
  leads_trans _ _ := trivial
  values_later _ same := same
  resembles := by
    rintro _ value _ rfl
    exact value.resembles_mapScope hollow.skip
  plain _ _ plain := (Value.mapScope_of_isPlain plain).symm

/-- A scope is another one than the empty one. -/
def Besides (hollow : Hollow) (scope : ScopeId) : Prop :=
  scope ≠ hollow.scope

section Steps

open Scriptlet.Machine

variable {stands : ScopeId → Prop} {machine other : Machine} {closure : ScopeId} {name : String}
  {value : Value} {declaration : Declaration} {arguments : List Value}

/-- Binding a name in both machines keeps them the same. -/
theorem Corresponds.define (same : hollow.Corresponds stands machine other)
    (besides : hollow.Besides holder) (name : String) (value : Value) :
    hollow.Corresponds stands { machine with scopes := machine.scopes.define holder name value }
      { other with
        scopes := other.scopes.define (hollow.skip holder) name (value.mapScope hollow.skip) } :=
  { same with scopes := same.scopes.define besides name value }

/-- A name is found in scopes that correspond, since the empty one binds none. -/
theorem Corresponds.nearest? (same : hollow.Corresponds stands machine other) (name : String) :
    other.scopes.nearest? name other.scope = (machine.scopes.nearest? name machine.scope).map
      fun (holder, value) => (hollow.skip holder, value.mapScope hollow.skip) := by
  rw [same.scope]
  exact same.scopes.nearest? name machine.scope

/-- A value is written as the same line in both runs. -/
theorem matches_writeLine (line : Nat) (value : Value) :
    (writeLine line value).Matches (hollow.comparison stands) () (fun _ _ _ => True)
      (writeLine line (value.mapScope hollow.skip)) := by
  intro machine other same
  have written (output : Output) :
      hollow.Corresponds stands { machine with output } { other with output } :=
    { same with output := rfl }
  have leads : (hollow.comparison stands).leads () () := trivial
  unfold writeLine
  dsimp only
  rw [same.output, (value.resembles_mapScope hollow.skip).display]
  split
  · exact .done leads (written _) trivial
  · exact .failed leads (written _)

/-- From a block or the body of a function, machines come back to where they were. -/
theorem Corresponds.comesBack {after final : Machine} {depth rest : Nat}
    (inside : hollow.Corresponds hollow.Besides after final)
    (same : hollow.Corresponds stands machine other) (likewise : rest = depth) :
    hollow.Corresponds stands { after with scope := machine.scope, depth := depth }
      { final with scope := other.scope, depth := rest } :=
  { inside with depth := likewise, scope := same.scope, stands := same.stands }

omit [Host] in
/-- A new scope is another one than the empty one. -/
theorem LeftOut.besides_next {scopes others : Scopes} (leftOut : hollow.LeftOut scopes others) :
    hollow.Besides scopes.next :=
  Nat.ne_of_gt leftOut.made

/-- A block begins with a new scope in both runs, which is another one than the empty one, and is
left for scopes that correspond. -/
theorem enters_block (same : hollow.Corresponds stands machine other) :
    (hollow.comparison hollow.Besides).Enters (hollow.comparison stands) () machine.enterBlock
      other.enterBlock machine.leaveBlock other.leaveBlock := by
  have begun : hollow.Corresponds hollow.Besides machine.enterBlock other.enterBlock :=
    { same with
      scopes := by
        rw [enterBlock, enterBlock, same.scope]
        exact same.scopes.enclose machine.scope
      scope := same.scopes.skip_next.symm
      stands := same.scopes.besides_next }
  refine ⟨(), begun, fun _ after final _ inside => ⟨(), trivial, ?_, fun _ _ same => same⟩⟩
  exact Corresponds.comesBack inside same inside.depth

/-- The body of a function begins with a new scope in both runs, inside of scopes that correspond.
-/
theorem enters_body (declaration : Declaration) (same : hollow.Corresponds stands machine other)
    (closure : ScopeId) (arguments : List Value) :
    (hollow.comparison hollow.Besides).Enters (hollow.comparison stands) ()
      (machine.enterBody declaration closure arguments)
      (other.enterBody declaration (hollow.skip closure)
        (arguments.map (·.mapScope hollow.skip))) machine.leaveBody other.leaveBody := by
  have entered := same.scopes.enclose closure
  have begun : hollow.Corresponds hollow.Besides (machine.enterBody declaration closure arguments)
      (other.enterBody declaration (hollow.skip closure)
        (arguments.map (·.mapScope hollow.skip))) :=
    { same with
      depth := congrArg (· + 1) same.depth
      scopes := by
        rw [enterBody, enterBody, ← same.scopes.skip_next]
        exact entered.defineAll same.scopes.besides_next declaration.parameters arguments
      scope := same.scopes.skip_next.symm
      stands := same.scopes.besides_next }
  refine ⟨(), begun, fun _ after final _ inside => ⟨(), trivial, ?_, fun _ _ same => same⟩⟩
  exact Corresponds.comesBack inside same (congrArg (· - 1) inside.depth)

/-- Wherever a machine stands, all steps but declarations lead to machines that correspond. -/
theorem soundAround_comparison (hollow : Hollow) (stands : ScopeId → Prop) :
    (hollow.comparison hollow.Besides).SoundAround (hollow.comparison stands) where
  limit same := ⟨congrArg Settings.callLimit same.settings, same.depth⟩
  nearest {_ machine other} name same := by
    rw [Corresponds.nearest? same name]
    cases machine.scopes.nearest? name machine.scope with
    | none => exact .none
    | some pair => exact .some rfl
  assign {_ machine other _ _ _ _ _ _ _} same here there given := by
    cases given
    rw [Corresponds.nearest? same, here] at there
    cases there
    exact ⟨(), trivial, Corresponds.define same (same.scopes.ne_of_nearest? here) _ _⟩
  write {_ value _} line given := by
    cases given
    exact matches_writeLine line value
  echo {_ value _} line given := by
    cases given
    refine Evaluation.matches_echoLine (fun _ _ same => ?_) fun _ _ => matches_writeLine line value
    exact congrArg Settings.echo same.settings
  world {_ machine other} same :=
    ⟨same.world, fun world => ⟨(), trivial, { same with world := rfl }⟩⟩
  block same := enters_block same
  body {_ machine other identity declaration closure _ arguments others} same callees all := by
    cases callees
    obtain rfl : others = arguments.map (·.mapScope hollow.skip) := by
      induction all with
      | nil => rfl
      | cons given _ ih => rw [List.map_cons, ← given, ← ih]
    exact enters_body declaration same closure arguments

/-- Where a machine stands in another scope than the empty one, so do declarations. -/
theorem sound_comparison (hollow : Hollow) : (hollow.comparison hollow.Besides).Sound where
  toSoundAround := hollow.soundAround_comparison hollow.Besides
  define {_ machine other value _} name same given := by
    cases given
    have bound := Corresponds.define same same.stands name value
    rw [← same.scope] at bound
    exact ⟨(), trivial, bound⟩
  function {_ machine other} declaration same := by
    obtain ⟨leftOut, given⟩ := same.scopes.newFunction declaration machine.scope
    rw [← same.scope] at leftOut given
    exact ⟨(), trivial, { same with scopes := leftOut }, given⟩

end Steps

end Hollow

end Scriptlet
