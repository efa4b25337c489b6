import LeftRec.Event
import LeftRec.Fault

/-!
# Building grammars

Building a grammar hands out fresh numbers, to memoized rules as keys and to lazily built parsers
as cells, and notes the patterns that it compiles.  A fault ends the building but takes back no
number that was handed out.
-/

namespace LeftRec

universe u v

/-- The numbers not handed out yet. -/
structure Supply where
  key : Nat
  cell : Nat
  deriving DecidableEq, Inhabited

/-- The state of building: the supply of numbers, and the events so far, newest first. -/
structure Workshop where
  supply : Supply
  log : List Event
  deriving DecidableEq

/-- Nothing handed out and nothing noted. -/
def Workshop.new : Workshop :=
  { supply := ⟨0, 0⟩, log := [] }

def Workshop.note (workshop : Workshop) (event : Event) : Workshop :=
  { workshop with log := event :: workshop.log }

/-- A computation that builds something. -/
def Build (α : Type u) : Type u :=
  Workshop → Except Fault α × Workshop

namespace Build

protected def pure {α : Type u} (a : α) : Build α :=
  fun workshop => (.ok a, workshop)

protected def bind {α : Type u} {β : Type v} (x : Build α) (f : α → Build β) : Build β :=
  fun workshop =>
    match x workshop with
    | (.ok a, next) => f a next
    | (.error fault, next) => (.error fault, next)

instance : Monad Build.{u} where
  pure := Build.pure
  bind := Build.bind

instance : LawfulMonad Build.{u} :=
  LawfulMonad.mk' _
    (fun x => by
      funext workshop
      show Build.bind x Build.pure workshop = x workshop
      unfold Build.bind
      rcases x workshop with ⟨_ | _, _⟩ <;> rfl)
    (fun _ _ => rfl)
    (fun x f g => by
      funext workshop
      show Build.bind (Build.bind x f) g workshop =
        Build.bind x (fun a => Build.bind (f a) g) workshop
      unfold Build.bind
      rcases x workshop with ⟨_ | _, _⟩ <;> rfl)

def fault {α : Type u} (f : Fault) : Build α :=
  fun workshop => (.error f, workshop)

def note (event : Event) : Build Unit :=
  fun workshop => (.ok (), workshop.note event)

/-- A key that no other rule has. -/
def freshKey : Build Key :=
  fun workshop =>
    let ⟨key, cell⟩ := workshop.supply
    (.ok (.id key), { workshop with supply := ⟨key + 1, cell⟩ })

/-- A place for a parser that is to be built when it is first run. -/
def freshCell : Build Nat :=
  fun workshop =>
    let ⟨key, cell⟩ := workshop.supply
    (.ok cell, { workshop with supply := ⟨key, cell + 1⟩ })

/-- What is built from a given supply. -/
def fromSupply {α : Type u} (x : Build α) (supply : Supply) : Except Fault α :=
  (x { supply, log := [] }).1

end Build

end LeftRec
