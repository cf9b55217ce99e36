import Scriptlet.RuntimeError
import Scriptlet.Value.Description

/-!
# Scopes

A scope binds names to values and may stand inside another scope that is older than itself. Scopes
are numbered in the order in which they are made, and so are functions: a number is never used
again. A name means what the nearest scope that binds it says, going outwards.
-/

namespace Scriptlet

/-- Names and what they are bound to, each name once. -/
abbrev Bindings : Type := List (String × Value)

namespace Bindings

/-- The value bound to a name. -/
def find? (bindings : Bindings) (name : String) : Option Value :=
  bindings.lookup name

/-- The bindings with a name bound to a value, in the place of what it was bound to. -/
def set (bindings : Bindings) (name : String) (value : Value) : Bindings :=
  match bindings with
  | [] => [(name, value)]
  | (other, bound) :: rest =>
    if other = name then (name, value) :: rest else (other, bound) :: set rest name value

@[simp] theorem find?_set_self (bindings : Bindings) (name : String) (value : Value) :
    (bindings.set name value).find? name = some value := by
  induction bindings with
  | nil => simp [set, find?]
  | cons binding rest ih =>
    obtain ⟨other, bound⟩ := binding
    by_cases same : other = name
    · simp [set, find?, same]
    · have different : (name == other) = false := by simpa using Ne.symm same
      simpa [set, find?, same, List.lookup_cons, different] using ih

theorem find?_set_of_ne {name other : String} (different : other ≠ name) (bindings : Bindings)
    (value : Value) : (bindings.set name value).find? other = bindings.find? other := by
  have unlike : (other == name) = false := by simpa using different
  induction bindings with
  | nil => simp [set, find?, List.lookup_cons, unlike]
  | cons binding rest ih =>
    obtain ⟨bound, kept⟩ := binding
    by_cases same : bound = name
    · subst same
      simp [set, find?, List.lookup_cons, unlike]
    · simp only [set, same, ↓reduceIte]
      simp only [find?, List.lookup_cons] at ih ⊢
      rw [ih]

/-- The bound names in ascending order. -/
def names (bindings : Bindings) : List String :=
  (bindings.map (·.1)).mergeSort

end Bindings

/-- A scope: what it binds, and the scope that it stands in. -/
structure Frame where
  bindings : Bindings
  enclosing : Option ScopeId

/-- The description of a scope. -/
def Frame.description (frame : Frame) : String :=
  "Environment \x7b names: " ++ Text.quotedList frame.bindings.names ++ ", enclosed: " ++
    toString frame.enclosing.isSome ++ " \x7d"

/-- All scopes made so far, and how many functions. -/
structure Scopes where
  frames : Array Frame
  functions : Nat

namespace Scopes

/-- No scope and no function. -/
def empty : Scopes := ⟨#[], 0⟩

/-- The number that the next scope gets. -/
def next (scopes : Scopes) : ScopeId := scopes.frames.size

/-- Adds an empty scope, inside another one or inside none. -/
def enclose (scopes : Scopes) (enclosing : Option ScopeId) : Scopes :=
  { scopes with frames := scopes.frames.push ⟨[], enclosing⟩ }

/-- Binds a name in one scope, whatever it was bound to there. -/
def define (scopes : Scopes) (scope : ScopeId) (name : String) (value : Value) : Scopes :=
  { scopes with
    frames := scopes.frames.modify scope fun frame =>
      { frame with bindings := frame.bindings.set name value } }

@[simp] theorem next_enclose (scopes : Scopes) (enclosing : Option ScopeId) :
    (scopes.enclose enclosing).next = scopes.next + 1 := by
  simp [enclose, next]

@[simp] theorem next_define (scopes : Scopes) (scope : ScopeId) (name : String) (value : Value) :
    (scopes.define scope name value).next = scopes.next := by
  simp [define, next]

/-- A new scope changes no scope that was there before. -/
theorem frame_enclose {scopes : Scopes} {scope : ScopeId} (older : scope < scopes.next)
    (enclosing : Option ScopeId) :
    (scopes.enclose enclosing).frames[scope]? = scopes.frames[scope]? := by
  have present : scope < scopes.frames.size := older
  simp [enclose, Array.getElem?_push, Nat.ne_of_lt present]

/-- A binding changes no other scope. -/
theorem frame_define_of_ne {scope other : ScopeId} (different : other ≠ scope) (scopes : Scopes)
    (name : String) (value : Value) :
    (scopes.define scope name value).frames[other]? = scopes.frames[other]? := by
  simp [define, Array.getElem?_modify, Ne.symm different]

/-- A binding leaves a scope where it stands. -/
theorem frame_define_self (scopes : Scopes) (scope : ScopeId) (name : String) (value : Value) :
    (scopes.define scope name value).frames[scope]? =
      (scopes.frames[scope]?).map fun frame =>
        { frame with bindings := frame.bindings.set name value } := by
  simp [define, Array.getElem?_modify]

/-- Binds names in one scope one after the other. -/
def defineAll (scopes : Scopes) (scope : ScopeId) (bindings : List (String × Value)) : Scopes :=
  bindings.foldl (fun scopes (name, value) => scopes.define scope name value) scopes

/-- The nearest scope that binds a name, from `scope` outwards, with the value bound there. -/
def nearest? (scopes : Scopes) (name : String) (scope : ScopeId) : Option (ScopeId × Value) :=
  match scopes.frames[scope]? with
  | none => none
  | some frame =>
    match frame.bindings.find? name with
    | some value => some (scope, value)
    | none =>
      match frame.enclosing with
      | none => none
      | some outer => if outer < scope then nearest? scopes name outer else none
termination_by scope

/-- The value of a name in a scope. -/
def get (scopes : Scopes) (scope : ScopeId) (name : String) : Except Fault Value :=
  match scopes.nearest? name scope with
  | some (_, value) => .ok value
  | none => .error (.undefinedVariable name)

/-- Binds a name anew where it is bound, and nowhere else. -/
def assign (scopes : Scopes) (scope : ScopeId) (name : String) (value : Value) :
    Except Fault Scopes :=
  match scopes.nearest? name scope with
  | some (holder, _) => .ok (scopes.define holder name value)
  | none => .error (.undefinedVariable name)

/-- The names bound in a scope itself, in ascending order. -/
def localNames (scopes : Scopes) (scope : ScopeId) : List String :=
  ((scopes.frames[scope]?).map (·.bindings.names)).getD []

/-- Whether a scope itself binds a name. -/
def containsLocal (scopes : Scopes) (scope : ScopeId) (name : String) : Bool :=
  ((scopes.frames[scope]?).bind (·.bindings.find? name)).isSome

/-- Makes a declared function, which nothing made before is the same as. -/
def newFunction (scopes : Scopes) (declaration : Declaration) (scope : ScopeId) :
    Value × Scopes :=
  (.function (.declared scopes.functions declaration scope),
    { scopes with functions := scopes.functions + 1 })

/-- Makes a native function. -/
def newNative (scopes : Scopes) (builtin : Native) : Value × Scopes :=
  (.function (.native scopes.functions builtin),
    { scopes with functions := scopes.functions + 1 })

/-- Binds every native function, newly made, in a scope. -/
def register (scopes : Scopes) (scope : ScopeId) : Scopes :=
  Native.all.foldl (fun scopes builtin =>
    let (value, scopes) := scopes.newNative builtin
    scopes.define scope builtin.name value) scopes

end Scopes

end Scriptlet
