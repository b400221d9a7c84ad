import Stencil.Catalogue

/-!
# Workspaces

Structures under construction. A structure has a place of its own, and handles and the container both name places, so
that a method added through a handle is seen in the container too.
-/

namespace Stencil

structure Building where
  name : QName
  kind : Kind
  base : Option QName
  interfaces : List QName
  methods : Registry Text Method := {}

namespace Building

def make (kind : Kind) (name base : QName) (interfaces : List QName) : Building :=
  let s := Structure.make kind name base interfaces
  { name := s.name, kind := s.kind, base := s.base, interfaces := s.interfaces }

def addMethod (s : Building) (m : Method) : Building := { s with methods := s.methods.put m.name m }

def add? (s : Building) : Option Method → Except BuildError Building :=
  BuildError.ifMissing (.noMethod s.name) s.addMethod

def addGetter? (s : Building) : Option Param → Except BuildError Building :=
  BuildError.ifMissing (.noGetterArgument s.name) fun p => s.addMethod (Structure.getterFor p)

def addSetter? (s : Building) : Option Param → Except BuildError Building :=
  BuildError.ifMissing (.noSetterArgument s.name) fun p => s.addMethod (Structure.setterFor p)

def toStructure (s : Building) : Structure := ⟨s.name, s.kind, s.base, s.interfaces, s.methods.all⟩

end Building

structure Workspace where
  /-- The structures, by place. -/
  places : List Building := []
  handles : Text → Option Nat := fun _ => none
  /-- The places in the container, by dotted name. -/
  container : Registry Text Nat := {}

namespace Workspace

def get? (w : Workspace) (handle : Text) : Option Building := (w.handles handle).bind (w.places[·]?)

-- a handle forgets the structure that it named before
def create (w : Workspace) (handle : Text) (s : Building) : Workspace :=
  { w with
    places := w.places ++ [s]
    handles := fun other => if other = handle then some w.places.length else w.handles other }

def modify (w : Workspace) (handle : Text) (f : Building → Except BuildError Building) :
    Workspace × Option BuildError :=
  -- a change that is refused leaves everything as it is
  match w.handles handle with
  | none => (w, none)
  | some i =>
    match w.places[i]? with
    | none => (w, none)
    | some s =>
      match f s with
      | .ok s => ({ w with places := w.places.set i s }, none)
      | .error e => (w, some e)

def store (w : Workspace) (handle : Option Text) : Workspace :=
  -- without a handle nothing happens
  match handle.bind w.handles with
  | none => w
  | some i =>
    match w.places[i]? with
    | none => w
    | some s => { w with container := w.container.put s.name.dotted i }

def stored? (w : Workspace) (name : QName) : Option Building :=
  (w.container.map name.dotted).bind (w.places[·]?)

def catalogue (w : Workspace) : Catalogue :=
  ⟨w.container.all.filterMap fun i => (w.places[i]?).map Building.toStructure⟩

/-- One operation of a builder. The method, the argument or the structure that it is given may be missing. -/
inductive Step where
  | create (handle : Text) (kind : Kind) (name base : QName) (interfaces : List QName)
  | add (handle : Text) (method : Option Method)
  | addGetter (handle : Text) (param : Option Param)
  | addSetter (handle : Text) (param : Option Param)
  | store (handle : Option Text)
deriving DecidableEq

def step (w : Workspace) : Step → Workspace × Option BuildError
  | .create handle kind name base interfaces => (w.create handle (.make kind name base interfaces), none)
  | .add handle m => w.modify handle (·.add? m)
  | .addGetter handle p => w.modify handle (·.addGetter? p)
  | .addSetter handle p => w.modify handle (·.addSetter? p)
  | .store handle => (w.store handle, none)

def run (steps : List Step) : Workspace := steps.foldl (fun w s => (w.step s).1) {}

end Workspace

end Stencil
