import Clausal.Clause
import Clausal.Index
import Clausal.Literal

/-!
# Encodings

An encoding allocates variables, remembers which literals of each variable were registered
and in which order, and collects hard and soft clauses over registered literals.  Copies of
an encoding keep its identity, so what addresses one of them addresses all.

An operation that fails has no new encoding to give; only `addHards` keeps the clauses
added before the one that failed.
-/

namespace Clausal

abbrev EncodingId := Nat

/-- A variable's name and its registered literals. -/
structure Variable where
  name : Option String
  newestFirst : List Literal
  index : Index Literal.atom newestFirst
  deriving DecidableEq

namespace Variable

/-- A variable without registered literals. -/
def fresh (name : Option String) : Variable := ⟨name, [], .empty⟩

/-- The registered literals in the order of registration. -/
def registered (v : Variable) : List Literal := v.newestFirst.reverse

def isRegistered (v : Variable) (literal : Literal) : Bool := v.index.has literal.atom

def add (v : Variable) (literal : Literal) : Variable :=
  ⟨v.name, literal :: v.newestFirst, v.index.cons literal⟩

/-- Keeps the literal that was registered first for an atom. -/
def register (v : Variable) (literal : Literal) : Variable :=
  if v.isRegistered literal then v else v.add literal

theorem isRegistered_iff (v : Variable) (literal : Literal) :
    v.isRegistered literal = true ↔ ∃ known ∈ v.registered, literal.same known = true := by
  simp only [isRegistered, Index.has_eq, List.any_eq_true, registered, List.mem_reverse,
    Literal.same_iff, beq_iff_eq]
  exact exists_congr fun known => and_congr_right fun _ => eq_comm

@[simp] theorem registered_fresh (name : Option String) : (fresh name).registered = [] := rfl

@[simp] theorem registered_add (v : Variable) (literal : Literal) :
    (v.add literal).registered = v.registered ++ [literal] := by
  simp [registered, add]

theorem registered_register (v : Variable) (literal : Literal) :
    (v.register literal).registered =
      if v.isRegistered literal then v.registered else v.registered ++ [literal] := by
  unfold register
  split <;> simp

theorem isRegistered_register (v : Variable) (literal : Literal) :
    (v.register literal).isRegistered literal = true := by
  unfold register
  split
  · assumption
  · simp [isRegistered_iff]

end Variable

structure Encoding where
  id : EncodingId
  vars : Array Variable
  comments : Array String
  hard : ClauseList Literal
  soft : ClauseList Literal
  deriving DecidableEq

namespace Encoding

def empty (id : EncodingId) : Encoding := ⟨id, #[], #[], .empty, .empty⟩

/-- Allocates the next variable. -/
def newVariable (e : Encoding) (name : Option String) :
    Except EncodingError (Encoding × VariableId) :=
  if h : e.vars.size < variableCapacity then
    .ok ({ e with vars := e.vars.push (.fresh name) }, ⟨e.vars.size, h⟩)
  else .error .variableCapacity

def variableCount (e : Encoding) : Nat := e.vars.size

def variableName (e : Encoding) (var : Nat) : Option String :=
  e.vars[var]?.bind Variable.name

/-- Registers a positive literal, and tells whether it was new. -/
def register (e : Encoding) (literal : Literal) : Except EncodingError (Encoding × Bool) :=
  if literal.negated then .error (.negatedKey literal)
  else
    match e.vars[literal.atom.var.val]? with
    | none => .error (.unknownVariable literal.atom.var)
    | some v =>
        .ok (if v.isRegistered literal then (e, false)
          else ({ e with vars := e.vars.modify literal.atom.var.val (·.add literal) }, true))

/-- Registers the positive literal of an atom and answers it. -/
def fetch (e : Encoding) (atom : Atom) : Except EncodingError (Encoding × Literal) :=
  (e.register (.ofAtom atom)).map fun result => (result.1, .ofAtom atom)

def literal (e : Encoding) (var : UInt8) (index : UInt32) :
    Except EncodingError (Encoding × Literal) := do
  let id ← variableId var
  e.fetch ⟨id, index⟩

def isRegistered (e : Encoding) (literal : Literal) : Bool :=
  match e.vars[literal.atom.var.val]? with
  | none => false
  | some v => v.isRegistered literal

/-- Registered literals by variable, each in the order of registration. -/
def registered (e : Encoding) : List (List Literal) :=
  e.vars.toList.map Variable.registered

def registeredCount (e : Encoding) : Nat := e.registered.flatten.length

/-- Adds to the hard or the soft side by cost; every literal has to be registered. -/
def addClause (e : Encoding) (clause : Clause Literal) : Except EncodingError Encoding :=
  match clause.literals.find? fun literal => !e.isRegistered literal with
  | some literal => .error (.unregisteredLiteral literal)
  | none =>
      .ok (if clause.isHard then { e with hard := e.hard.add clause }
        else { e with soft := e.soft.add clause })

def addHard (e : Encoding) (literals : List Literal) : Except EncodingError Encoding :=
  e.addClause (.hard literals)

def addSoft (e : Encoding) (cost : UInt64) (literals : List Literal) :
    Except EncodingError Encoding :=
  e.addClause (.soft cost literals)

/-- Adds hard clauses up to the first that fails, and keeps those before it. -/
def addHards (e : Encoding) : List (List Literal) → Encoding × Except EncodingError Unit
  | [] => (e, .ok ())
  | literals :: rest =>
      match e.addHard literals with
      | .error failure => (e, .error failure)
      | .ok next => next.addHards rest

/-- Adds a comment for the top of the printed file. -/
def comment (e : Encoding) (text : String) : Except EncodingError Encoding :=
  (Comment.check text).map fun text => { e with comments := e.comments.push text }

def commentHard (e : Encoding) (text : String) : Except EncodingError Encoding :=
  (e.hard.comment text).map fun hard => { e with hard }

def commentSoft (e : Encoding) (text : String) : Except EncodingError Encoding :=
  (e.soft.comment text).map fun soft => { e with soft }

/-- A clause with its literals' texts, for reading an encoding before it is numbered. -/
def debugLine (clause : Clause Literal) : String :=
  let literals := String.intercalate " " (clause.literals.map Literal.render)
  if clause.isHard then s!"HARD: {literals}" else s!"SOFT {clause.cost}: {literals}"

def debugLines (e : Encoding) : List String :=
  e.hard.lines debugLine ++ e.soft.lines debugLine

@[simp] theorem vars_empty (id : EncodingId) : (empty id).vars = #[] := rfl

@[simp] theorem registered_empty (id : EncodingId) : (empty id).registered = [] := rfl

theorem id_of_newVariable {e e' : Encoding} {name : Option String} {var : VariableId}
    (h : e.newVariable name = .ok (e', var)) : e'.id = e.id ∧ var.val = e.vars.size := by
  unfold newVariable at h
  split at h
  · cases h
    exact ⟨rfl, rfl⟩
  · cases h

end Encoding

end Clausal
