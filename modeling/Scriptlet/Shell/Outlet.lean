import Scriptlet.Shell.Place

/-!
# Outlets

Streams that are open lead to outlets: a collector of what is written, a supply of what can be
read, or a file. Several commands may share an outlet, and then they share how far it is read or
written.
-/

namespace Scriptlet.Shell

/-- What a stream leads to. A collector has the last write first. A file is read and written from an
offset on, or written at its end. -/
inductive Outlet where
  | collector (writes : List Octets)
  | supply (rest : Octets)
  | file (way : List String) (offset : Nat) (reads writes appends : Bool)

/-- All files, the ways to those that were made programs, and the outlets that were ever opened. -/
structure System where
  tree : Folder
  programs : List (List String)
  outlets : Array Outlet

namespace System

/-- Opens an outlet, and tells its number. -/
def addOutlet (system : System) (outlet : Outlet) : Nat × System :=
  (system.outlets.size, { system with outlets := system.outlets.push outlet })

/-- Puts an outlet in the place of another one. -/
def setOutlet (system : System) (number : Nat) (outlet : Outlet) : System :=
  { system with outlets := system.outlets.setIfInBounds number outlet }

/-- The files as they are seen from a folder. -/
def place (system : System) (here : List String) : Place :=
  ⟨system.tree, system.programs, here⟩

/-- The system with changed files. -/
def withPlace (system : System) (place : Place) : System :=
  { system with tree := place.tree, programs := place.programs }

/-- The octets of the file at the end of a way. -/
def content (system : System) (way : List String) : Octets :=
  ((system.place []).readAt way).toOption.getD []

/-- Octets with others written over them from an offset on. -/
def overwritten (old : Octets) (offset : Nat) (octets : Octets) : Octets :=
  old.take offset ++ List.replicate (offset - old.length) '\x00' ++ octets ++
    old.drop (offset + octets.length)

/-- Writes octets to an outlet, if it takes any. -/
def write? (system : System) (number : Nat) (octets : Octets) : Option System := do
  match ← system.outlets[number]? with
  | .collector writes => return system.setOutlet number (.collector (octets :: writes))
  | .supply _ => none
  | .file way offset reads writes appends =>
    if !writes then none
    if way = Place.nowhere then return system
    let old := system.content way
    let offset := if appends then old.length else offset
    let place ← ((system.place []).writeAt way (overwritten old offset octets)).toOption
    let outlet := Outlet.file way (offset + octets.length) reads writes appends
    return (system.withPlace place).setOutlet number outlet

/-- What can still be read from an outlet, if it can be read. -/
def waiting? (system : System) (number : Nat) : Option Octets := do
  match ← system.outlets[number]? with
  | .collector _ => none
  | .supply rest => return rest
  | .file way offset reads _ _ => if reads then return (system.content way).drop offset else none

/-- The outlet behind the octets that were read from it. -/
def advance (system : System) (number count : Nat) : System :=
  match system.outlets[number]? with
  | some (.supply rest) => system.setOutlet number (.supply (rest.drop count))
  | some (.file way offset reads writes appends) =>
    system.setOutlet number (.file way (offset + count) reads writes appends)
  | _ => system

/-- What an outlet has collected. -/
def collected (system : System) (number : Nat) : Octets :=
  match system.outlets[number]? with
  | some (.collector writes) => writes.reverse.flatten
  | _ => []

end System

end Scriptlet.Shell
