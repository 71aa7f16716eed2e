/-
OpBindings.OverloadFamily — overloads that differ only in their outputs.

A plain operator returns new results; a writer puts them into arguments. The
operators of one base name are gathered by key, the text of their signature
without outputs. A plain operator and a writer of one key make one family,
which the generated code splits again at run time by whether `out` was
passed. The first operator of a kind is the family's member; a later one of
the same kind and key is ignored with a warning.

The order of the families is the order in which the argument parser tries
them: families without a writer first, and each block in the order in which
its keys were first seen.
-/
import OpBindings.Run

namespace OpBindings

/-- What to do about a family that has a writer only. -/
inductive LoneWriter where
  /-- The run fails. -/
  | refuse
  /-- The writer is bound in place of a plain operator, with a warning. -/
  | accept
deriving DecidableEq, Repr

/-- The members of a family: a plain operator, a writer, or both. -/
inductive Members where
  | plain (o : Operator)
  | writer (w : Operator)
  | both (o w : Operator)
deriving DecidableEq, Repr

namespace Members

def plain? : Members → Option Operator
  | plain o | both o _ => some o
  | writer _ => none

def writer? : Members → Option Operator
  | plain _ => none
  | writer w | both _ w => some w

/-- The operator that is called when `out` is omitted. -/
def representative : Members → Operator
  | plain o | both o _ => o
  | writer w => w

end Members

/-- The overloads of one key. -/
structure OverloadFamily where
  /-- The signature text without outputs. -/
  key : String
  /-- The signature that the argument parser is given. -/
  signature : Signature
  members : Members
deriving DecidableEq, Repr

namespace OverloadFamily

def plain? (f : OverloadFamily) : Option Operator := f.members.plain?

def writer? (f : OverloadFamily) : Option Operator := f.members.writer?

def representative (f : OverloadFamily) : Operator := f.members.representative

/-- The generated code chooses between two calls. -/
def isSplit (f : OverloadFamily) : Bool := f.plain?.isSome && f.writer?.isSome

/-- The writer stands in for a plain operator. -/
def lacksPlain (f : OverloadFamily) : Bool := f.plain?.isNone

/-! ## Gathering -/

/-- The family with one more plain operator of its key. -/
def addPlain (f : OverloadFamily) (o : Operator) : Run OverloadFamily :=
  match f.members with
  | .plain earlier | .both earlier _ => do
    Run.note (.plainIgnored o.name earlier.name f.key)
    pure f
  | .writer w => pure { f with members := .both o w }

/-- The family with one more writer of its key. It shows the signature with
outputs from then on. -/
def addWriter (surface : Surface) (f : OverloadFamily) (w : Operator) : Run OverloadFamily :=
  match f.members with
  | .writer earlier | .both _ earlier => do
    Run.note (.writerIgnored w.name earlier.name f.key)
    pure f
  | .plain o => do
    let signature ← Run.lift (w.signature surface .kept)
    pure { f with signature, members := .both o w }

/-- The family with one more operator of its key. -/
def add (surface : Surface) (f : OverloadFamily) (o : Operator) : Run OverloadFamily :=
  if o.hasOutputs then f.addWriter surface o else f.addPlain o

/-- The family that an operator opens for its key. -/
def first (surface : Surface) (key : Signature) (o : Operator) : Run OverloadFamily :=
  if o.hasOutputs then do
    let signature ← Run.lift (o.signature surface .kept)
    pure { key := key.text, signature, members := .writer o }
  else pure { key := key.text, signature := key, members := .plain o }

/-- The families with one more operator: in the family of its key, or in a new one at the end. -/
def insert (surface : Surface) (key : Signature) (o : Operator) :
    List OverloadFamily → Run (List OverloadFamily)
  | [] => do
    let f ← first surface key o
    pure [f]
  | f :: families =>
    if f.key = key.text then do
      let f ← add surface f o
      pure (f :: families)
    else do
      let families ← insert surface key o families
      pure (f :: families)

/-- The families of a list of operators, in the order of their keys. -/
def gather (surface : Surface) (families : List OverloadFamily) :
    List Operator → Run (List OverloadFamily)
  | [] => pure families
  | o :: os => do
    let key ← Run.lift (o.signature surface .elided)
    let families ← insert surface key o families
    gather surface families os

/-! ## Checking and ordering -/

/-- Sees to a family without a plain member. -/
def settleOne (policy : LoneWriter) (f : OverloadFamily) : Run Unit :=
  if f.lacksPlain then
    match policy with
    | .refuse => Run.fail (.loneWriter f.representative.name f.key)
    | .accept => do
      Run.note (.loneWriter f.representative.name f.key)
      Run.tally .loneWriter
  else pure ()

/-- Sees to the families without a plain member. -/
def settleLone (policy : LoneWriter) : List OverloadFamily → Run Unit
  | [] => pure ()
  | f :: families => do
    settleOne policy f
    settleLone policy families

/-- The order in which the argument parser tries the families. -/
def prioritised (families : List OverloadFamily) : List OverloadFamily :=
  families.filter (·.writer?.isNone) ++ families.filter (·.writer?.isSome)

/-- The overload families of the operators named `name` on a surface. -/
def ofOperators (policy : LoneWriter) (name : String) (surface : Surface)
    (operators : List Operator) : Run (List OverloadFamily) := do
  let families ← gather surface [] operators
  settleLone policy families
  Run.note (.grouped name surface families.length)
  pure (prioritised families)

end OverloadFamily

end OpBindings
