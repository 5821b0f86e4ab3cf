import Clausal.Proofs.Encoding.History
import Clausal.Proofs.Valuation

/-!
# Operations in place

An operation is carried out on an encoding in place: it reads, checks and writes step by step, and
a failure takes nothing back of what was written before it.  Each operation comes to the same in
this way, so none of them fails after it has written, and a failure leaves the encoding as it was.
Only the hard clauses that are added together stay as far as they were added: all those before the
first clause with an unregistered literal.
-/

namespace Clausal

/-- Steps on an encoding in place; one that fails ends them. -/
abbrev Edit := EStateM EncodingError Encoding

namespace Edit

variable {α β φ γ : Type}

/-! ## The operations step by step -/

def newVariable (name : Option String) : Edit VariableId := do
  let e ← get
  if room : e.vars.size < variableCapacity then
    set { e with vars := e.vars.push (.fresh name) }
    return ⟨e.vars.size, room⟩
  else throw .variableCapacity

/-- Allocates a variable for a family. -/
def newFamily (make : EncodingId → VariableId → φ) : Edit φ := do
  let e ← get
  let var ← newVariable none
  return make e.id var

def register (literal : Literal) : Edit Bool := do
  if literal.negated then throw (.negatedKey literal)
  let e ← get
  match e.vars[literal.atom.var.val]? with
  | none => throw (.unknownVariable literal.atom.var)
  | some v =>
      if v.isRegistered literal then return false
      set { e with vars := e.vars.modify literal.atom.var.val (·.add literal) }
      return true

def enter (atom : Atom) : Edit Literal := do
  let _ ← register (.ofAtom atom)
  return .ofAtom atom

def literal (var : UInt8) (index : UInt32) : Edit Literal := do
  let id ← ofExcept (variableId var)
  enter ⟨id, index⟩

/-- The family is answered with the literal. -/
def fetch [Family φ γ] (family : φ) (coords : γ) : Edit (φ × Literal) := do
  let e ← get
  if e.id ≠ Family.owner family then throw (.foreignFamily (Family.var family))
  let (index, next) ← ofExcept (Family.indexOf family coords)
  let literal ← enter ⟨Family.var family, index⟩
  return (next, literal)

def fetchNamed [Family φ γ] (family : φ) (name : String) (coords : γ) : Edit Literal := do
  let (next, literal) ← fetch family coords
  return literal.named name (Family.labelCoords next coords)

def checkLiterals : List Literal → Edit Unit
  | [] => return ()
  | literal :: rest => do
      let e ← get
      if e.isRegistered literal then checkLiterals rest
      else throw (.unregisteredLiteral literal)

def addClause (clause : Clause Literal) : Edit Unit := do
  checkLiterals clause.literals
  modify fun e =>
    if clause.isHard then { e with hard := e.hard.add clause }
    else { e with soft := e.soft.add clause }

def addHards : List (List Literal) → Edit Unit
  | [] => return ()
  | literals :: rest => do
      addClause (.hard literals)
      addHards rest

def comment (text : String) : Edit Unit := do
  let text ← ofExcept (Comment.check text)
  modify fun e => { e with comments := e.comments.push text }

def commentHard (text : String) : Edit Unit := do
  let text ← ofExcept (Comment.check text)
  modify fun e => { e with hard := e.hard.addComment text }

def commentSoft (text : String) : Edit Unit := do
  let text ← ofExcept (Comment.check text)
  modify fun e => { e with soft := e.soft.addComment text }

/-- The encoding that the steps leave, and whether one of them has failed. -/
def outcome (edit : Edit α) (e : Encoding) : Encoding × Except EncodingError Unit :=
  match edit e with
  | .ok _ next => (next, .ok ())
  | .error failure left => (left, .error failure)

end Edit

/-- The operation carried out in place. -/
def Operation.runInPlace (e : Encoding) : Operation → Encoding × Except EncodingError Unit
  | newVariable name => (Edit.newVariable name).outcome e
  | newLine => (Edit.newFamily fun owner var => (⟨owner, var, 0, none⟩ : Line)).outcome e
  | newGrid columns symmetric =>
      (Edit.newFamily fun owner var => (⟨owner, var, columns, symmetric⟩ : Grid)).outcome e
  | newCube rows columns =>
      (Edit.newFamily fun owner var => (⟨owner, var, rows, columns⟩ : Cube)).outcome e
  | newOpenFamily arity =>
      (Edit.newFamily fun owner var => (⟨owner, var, arity, []⟩ : OpenFamily)).outcome e
  | literal var index => (Edit.literal var index).outcome e
  | register key => (Edit.register key).outcome e
  | fetch family coords => (Edit.fetch family coords).outcome e
  | fetchNamed family name coords => (Edit.fetchNamed family name coords).outcome e
  | addClause clause => (Edit.addClause clause).outcome e
  | addHard literals => (Edit.addClause (.hard literals)).outcome e
  | addSoft cost literals => (Edit.addClause (.soft cost literals)).outcome e
  | addHards clauses => (Edit.addHards clauses).outcome e
  | comment text => (Edit.comment text).outcome e
  | commentHard text => (Edit.commentHard text).outcome e
  | commentSoft text => (Edit.commentSoft text).outcome e
  | clone => (e, .ok ())

namespace Edit

variable {α β φ γ : Type} {edit : Edit α} {e : Encoding}

/-! ## Checks come before writes -/

theorem outcome_of_apply {attempt : Except EncodingError (Encoding × α)}
    (h : edit e = inPlace e attempt) :
    edit.outcome e = Operation.settle e (attempt.map Prod.fst) := by
  rw [outcome, h]
  cases attempt with
  | error failure => rfl
  | ok made => rfl

theorem newVariable_apply (name : Option String) (e : Encoding) :
    newVariable name e = inPlace e (e.newVariable name) := by
  change (if room : e.vars.size < variableCapacity then _ else _ : Edit VariableId) e = _
  rw [Encoding.newVariable]
  split
  · rfl
  · rfl

theorem newFamily_apply (make : EncodingId → VariableId → φ) (e : Encoding) :
    newFamily make e =
      inPlace e ((e.newVariable none).map fun made => (made.1, make e.id made.2)) :=
  bind_pure_apply (newVariable_apply none e) (make e.id)

theorem register_apply (literal : Literal) (e : Encoding) :
    register literal e = inPlace e (e.register literal) := by
  unfold register Encoding.register
  cases literal.negated with
  | true => rfl
  | false =>
      change (match e.vars[literal.atom.var.val]? with
        | none => _
        | some v => _ : Edit Bool) e = _
      rw [if_neg Bool.false_ne_true]
      cases e.vars[literal.atom.var.val]? with
      | none => rfl
      | some v =>
          simp only
          cases v.isRegistered literal with
          | true => rfl
          | false => rfl

theorem enter_apply (atom : Atom) (e : Encoding) : enter atom e = inPlace e (e.fetch atom) :=
  bind_pure_apply (register_apply (.ofAtom atom) e) fun _ => Literal.ofAtom atom

theorem literal_apply (var : UInt8) (index : UInt32) (e : Encoding) :
    literal var index e = inPlace e (e.literal var index) :=
  check_bind_apply fun id => enter_apply ⟨id, index⟩ e

theorem fetch_apply [Family φ γ] (family : φ) (coords : γ) (e : Encoding) :
    fetch family coords e =
      inPlace e ((Family.fetch family e coords).2.map fun made =>
        (made.1, ((Family.fetch family e coords).1, made.2))) := by
  change (if e.id ≠ Family.owner family then _ else _ : Edit (φ × Literal)) e = _
  by_cases howner : e.id = Family.owner family
  · rw [if_neg (not_not_intro howner), Family.fetch_owned howner]
    cases Family.indexOf family coords with
    | error failure => rfl
    | ok pair =>
        exact bind_pure_apply (enter_apply ⟨Family.var family, pair.1⟩ e)
          fun literal => (pair.2, literal)
  · rw [if_pos howner, Family.fetch_foreign howner]
    rfl

theorem fetchNamed_apply [Family φ γ] (family : φ) (name : String) (coords : γ) (e : Encoding) :
    fetchNamed family name coords e = inPlace e (Family.fetchNamed family e name coords).2 := by
  rw [fetchNamed, bind_pure_apply (fetch_apply family coords e)
    fun made => made.2.named name (Family.labelCoords made.1 coords), Family.fetchNamed]
  simp only
  cases (Family.fetch family e coords).2 with
  | error failure => rfl
  | ok made => rfl

theorem checkLiterals_apply (literals : List Literal) (e : Encoding) :
    checkLiterals literals e =
      match literals.find? fun literal => !e.isRegistered literal with
      | some literal => .error (.unregisteredLiteral literal) e
      | none => .ok () e := by
  induction literals with
  | nil => rfl
  | cons literal rest ih =>
      change (if e.isRegistered literal then checkLiterals rest else _ : Edit Unit) e = _
      rw [List.find?_cons]
      cases e.isRegistered literal with
      | true => exact ih
      | false => rfl

theorem addClause_apply (clause : Clause Literal) (e : Encoding) :
    addClause clause e = inPlace e ((e.addClause clause).map fun next => (next, ())) := by
  rw [addClause, bind_apply, checkLiterals_apply, Encoding.addClause]
  cases clause.literals.find? fun literal => !e.isRegistered literal with
  | some literal => rfl
  | none => rfl

theorem outcome_addClause (clause : Clause Literal) (e : Encoding) :
    (addClause clause).outcome e = Operation.settle e (e.addClause clause) := by
  rw [outcome_of_apply (addClause_apply clause e)]
  cases e.addClause clause with
  | error failure => rfl
  | ok next => rfl

theorem outcome_fetch [Family φ γ] (family : φ) (coords : γ) (e : Encoding) :
    (fetch family coords).outcome e =
      Operation.settle e ((Family.fetch family e coords).2.map Prod.fst) := by
  rw [outcome_of_apply (fetch_apply family coords e)]
  cases (Family.fetch family e coords).2 with
  | error failure => rfl
  | ok made => rfl

theorem outcome_comment (text : String) (write : String → Encoding → Encoding) (e : Encoding) :
    (ofExcept (Comment.check text) >>= fun text => modify (write text) : Edit Unit).outcome e =
      Operation.settle e ((Comment.check text).map fun text => write text e) := by
  cases Comment.check text with
  | error failure => rfl
  | ok text => rfl

theorem outcome_addHards (clauses : List (List Literal)) (e : Encoding) :
    (addHards clauses).outcome e = e.addHards clauses := by
  induction clauses generalizing e with
  | nil => rfl
  | cons literals rest ih =>
      rw [outcome, addHards, bind_apply, addClause_apply, Encoding.addHards, Encoding.addHard]
      cases e.addClause (.hard literals) with
      | error failure => rfl
      | ok next => exact ih next

end Edit

namespace Operation

theorem runInPlace_eq_run (e : Encoding) (op : Operation) : op.runInPlace e = op.run e := by
  cases op with
  | newVariable name => exact Edit.outcome_of_apply (Edit.newVariable_apply name e)
  | newLine => exact Edit.outcome_of_apply (Edit.newFamily_apply _ e)
  | newGrid columns symmetric => exact Edit.outcome_of_apply (Edit.newFamily_apply _ e)
  | newCube rows columns => exact Edit.outcome_of_apply (Edit.newFamily_apply _ e)
  | newOpenFamily arity => exact Edit.outcome_of_apply (Edit.newFamily_apply _ e)
  | literal var index => exact Edit.outcome_of_apply (Edit.literal_apply var index e)
  | register key => exact Edit.outcome_of_apply (Edit.register_apply key e)
  | fetch family coords => exact Edit.outcome_fetch family coords e
  | fetchNamed family name coords =>
      exact Edit.outcome_of_apply (Edit.fetchNamed_apply family name coords e)
  | addClause clause => exact Edit.outcome_addClause clause e
  | addHard literals => exact Edit.outcome_addClause (.hard literals) e
  | addSoft cost literals => exact Edit.outcome_addClause (.soft cost literals) e
  | addHards clauses => exact Edit.outcome_addHards clauses e
  | comment text => exact Edit.outcome_comment text _ e
  | commentHard text =>
      rw [runInPlace, Edit.commentHard, Edit.outcome_comment, run, Encoding.commentHard,
        ClauseList.comment]
      cases Comment.check text with
      | error failure => rfl
      | ok text => rfl
  | commentSoft text =>
      rw [runInPlace, Edit.commentSoft, Edit.outcome_comment, run, Encoding.commentSoft,
        ClauseList.comment]
      cases Comment.check text with
      | error failure => rfl
      | ok text => rfl
  | clone => rfl

/-- Apart from the hard clauses that are added together, an operation gives the new encoding only
where it succeeds. -/
theorem run_eq_settle (e : Encoding) {op : Operation}
    (single : ∀ clauses, op ≠ .addHards clauses) : ∃ attempt, op.run e = settle e attempt := by
  cases op with
  | addHards clauses => exact absurd rfl (single clauses)
  | clone => exact ⟨.ok e, rfl⟩
  | _ => exact ⟨_, rfl⟩

theorem fst_settle_of_error {e : Encoding} {attempt : Except EncodingError Encoding}
    {failure : EncodingError} (h : (settle e attempt).2 = .error failure) :
    (settle e attempt).1 = e := by
  cases attempt with
  | error reason => rfl
  | ok next => cases h

end Operation

/-! ## Hard clauses added together -/

namespace Encoding

/-- All literals of the clause are registered. -/
def Accepts (e : Encoding) (literals : List Literal) : Prop :=
  ∀ literal ∈ literals, e.isRegistered literal = true

/-- What adding hard clauses one by one comes to: all of them are added, or those before the first
that has an unregistered literal, of which the first is reported. -/
inductive HardsAdded (e : Encoding) (clauses : List (List Literal)) :
    Encoding → Except EncodingError Unit → Prop
  | all {left : Encoding} (accepted : ∀ literals ∈ clauses, e.Accepts literals)
      (added : clauses.foldlM addHard e = .ok left) : HardsAdded e clauses left (.ok ())
  | before {left : Encoding} {earlier later : List (List Literal)} {front back : List Literal}
      {stray : Literal} (split : clauses = earlier ++ (front ++ stray :: back) :: later)
      (accepted : ∀ literals ∈ earlier, e.Accepts literals) (registered : e.Accepts front)
      (unregistered : e.isRegistered stray = false)
      (added : earlier.foldlM addHard e = .ok left) :
      HardsAdded e clauses left (.error (.unregisteredLiteral stray))

theorem addHards_append {e left : Encoding} {clauses : List (List Literal)}
    (added : clauses.foldlM addHard e = .ok left) (rest : List (List Literal)) :
    e.addHards (clauses ++ rest) = left.addHards rest := by
  induction clauses generalizing e with
  | nil =>
      cases added
      rfl
  | cons literals more ih =>
      rw [List.foldlM_cons, bind_eq_ok_iff] at added
      obtain ⟨next, hnext, hmore⟩ := added
      rw [List.cons_append, addHards, hnext]
      exact ih hmore

theorem addHards_eq_of_foldlM {e left : Encoding} {clauses : List (List Literal)}
    (added : clauses.foldlM addHard e = .ok left) : e.addHards clauses = (left, .ok ()) := by
  rw [← List.append_nil clauses, addHards_append added]
  rfl

theorem isRegistered_congr {e e' : Encoding} (h : e'.vars = e.vars) (literal : Literal) :
    e'.isRegistered literal = e.isRegistered literal := by
  rw [isRegistered, isRegistered, h]

theorem addClause_eq_error {e : Encoding} {clause : Clause Literal} {front back : List Literal}
    {stray : Literal} (split : clause.literals = front ++ stray :: back)
    (registered : e.Accepts front) (unregistered : e.isRegistered stray = false) :
    e.addClause clause = .error (.unregisteredLiteral stray) := by
  have hfind : clause.literals.find? (fun literal => !e.isRegistered literal) = some stray := by
    rw [List.find?_eq_some_iff_append]
    refine ⟨by rw [unregistered]; rfl, front, back, split, fun literal hmem => ?_⟩
    rw [registered literal hmem]
    rfl
  rw [addClause, hfind]

/-- Clauses of registered literals are all added, whatever was added before them. -/
theorem exists_foldlM_addHard {e : Encoding} {clauses : List (List Literal)}
    (accepted : ∀ literals ∈ clauses, e.Accepts literals) :
    ∃ left, clauses.foldlM addHard e = .ok left := by
  have hstep : ∀ known : Encoding, known.vars = e.vars → ∀ literals ∈ clauses,
      ∃ next, known.addHard literals = .ok next ∧ next.vars = e.vars := by
    intro known hvars literals hmem
    refine ⟨{ known with hard := known.hard.add (.hard literals) }, ?_, hvars⟩
    refine addClause_eq_ok_iff.mpr ⟨fun literal hliteral => ?_, rfl⟩
    rw [isRegistered_congr hvars]
    exact accepted literals hmem literal hliteral
  obtain ⟨left, hleft, -⟩ := exists_foldlM hstep rfl
  exact ⟨left, hleft⟩

theorem HardsAdded.addHards_eq {e left : Encoding} {clauses : List (List Literal)}
    {result : Except EncodingError Unit} (h : e.HardsAdded clauses left result) :
    e.addHards clauses = (left, result) := by
  cases h with
  | all accepted added => exact addHards_eq_of_foldlM added
  | @before earlier later front back stray split accepted registered unregistered added =>
      -- Clauses change no variable, so the stray literal is still the first one when its turn comes.
      have hvars : left.vars = e.vars := by
        rw [← e.addHards_vars earlier, addHards_eq_of_foldlM added]
      have hfront : left.Accepts front := fun literal hmem => by
        rw [isRegistered_congr hvars, registered literal hmem]
      have hstray : left.isRegistered stray = false := by
        rw [isRegistered_congr hvars, unregistered]
      have hbad : left.addHard (front ++ stray :: back) = .error (.unregisteredLiteral stray) :=
        addClause_eq_error rfl hfront hstray
      rw [split, addHards_append added, addHards, hbad]

theorem exists_hardsAdded (e : Encoding) (clauses : List (List Literal)) :
    ∃ left result, e.HardsAdded clauses left result := by
  cases hbad : clauses.find? fun literals => literals.any fun literal => !e.isRegistered literal with
  | none =>
      have accepted : ∀ literals ∈ clauses, e.Accepts literals := by
        simpa [Accepts] using hbad
      obtain ⟨left, added⟩ := exists_foldlM_addHard accepted
      exact ⟨left, .ok (), .all accepted added⟩
  | some bad =>
      obtain ⟨hany, earlier, later, split, hearlier⟩ := List.find?_eq_some_iff_append.mp hbad
      have accepted : ∀ literals ∈ earlier, e.Accepts literals := by
        simpa [Accepts] using hearlier
      obtain ⟨left, added⟩ := exists_foldlM_addHard accepted
      rw [List.any_eq_true, ← List.find?_isSome, Option.isSome_iff_exists] at hany
      obtain ⟨stray, hstray⟩ := hany
      obtain ⟨unregistered, front, back, rfl, hfront⟩ := List.find?_eq_some_iff_append.mp hstray
      rw [Bool.not_eq_true'] at unregistered
      refine ⟨left, _, .before split accepted (fun literal hmem => ?_) unregistered added⟩
      simpa using hfront literal hmem

/-- Adding hard clauses together comes to one thing only. -/
theorem addHards_eq_iff {e left : Encoding} {clauses : List (List Literal)}
    {result : Except EncodingError Unit} :
    e.addHards clauses = (left, result) ↔ e.HardsAdded clauses left result := by
  constructor
  · intro h
    obtain ⟨_, _, hadded⟩ := e.exists_hardsAdded clauses
    cases hadded.addHards_eq.symm.trans h
    exact hadded
  · exact HardsAdded.addHards_eq

end Encoding

/-- Carried out in place, an operation comes to what it was defined as, and one that fails has
changed nothing.  Hard clauses that are added together fail exactly if one of them has an
unregistered literal; they are then added up to the first such clause, and its first such literal
is reported. -/
theorem Operation.failures_keep_encoding (e : Encoding) :
    (∀ op : Operation, op.runInPlace e = op.run e) ∧
      (∀ op : Operation, (∀ clauses, op ≠ .addHards clauses) →
        ∀ failure, (op.runInPlace e).2 = .error failure → (op.runInPlace e).1 = e) ∧
      ∀ clauses left result, (Operation.addHards clauses).runInPlace e = (left, result) ↔
        e.HardsAdded clauses left result := by
  refine ⟨runInPlace_eq_run e, fun op single failure hfailed => ?_, fun clauses left result => ?_⟩
  · rw [runInPlace_eq_run] at hfailed ⊢
    obtain ⟨attempt, hattempt⟩ := run_eq_settle e single
    rw [hattempt] at hfailed ⊢
    exact fst_settle_of_error hfailed
  · rw [runInPlace_eq_run]
    exact Encoding.addHards_eq_iff

/-- An encoding with one registered literal. -/
def Encoding.sample : Encoding := .run 3 [.newLine, .literal 0 5]

def Literal.registeredSample : Literal := .ofAtom ⟨firstVariable, 5⟩

def Literal.straySample : Literal := .ofAtom ⟨firstVariable, 6⟩

open Encoding (sample) in
open Literal (registeredSample straySample) in
/-- A soft clause with an unregistered literal, and hard clauses of which the second has one. -/
theorem Operation.stray_literals_keep_encoding :
    ((Operation.addSoft 2 [registeredSample, straySample]).runInPlace sample).2 =
        .error (.unregisteredLiteral straySample) ∧
      ((Operation.addSoft 2 [registeredSample, straySample]).runInPlace sample).1 = sample ∧
      ∃ left, sample.addHard [registeredSample] = .ok left ∧
        (Operation.addHards [[registeredSample], [registeredSample.neg, straySample.neg],
          [registeredSample]]).runInPlace sample =
            (left, .error (.unregisteredLiteral straySample.neg)) := by
  obtain ⟨hsame, hkeeps, hhards⟩ := Operation.failures_keep_encoding sample
  have hknown : sample.isRegistered registeredSample = true := by cbv
  have hstray : sample.isRegistered straySample = false := by cbv
  have haccepts : sample.Accepts [registeredSample] := by
    intro literal hmem
    rw [List.mem_singleton.mp hmem, hknown]
  have hrefused : sample.addSoft 2 [registeredSample, straySample] =
      .error (.unregisteredLiteral straySample) :=
    Encoding.addClause_eq_error List.singleton_append.symm haccepts hstray
  have hfailed : ((Operation.addSoft 2 [registeredSample, straySample]).runInPlace sample).2 =
      .error (.unregisteredLiteral straySample) := by
    rw [hsame, run, hrefused]
    rfl
  have hother : ∀ clauses, Operation.addSoft 2 [registeredSample, straySample] ≠
      .addHards clauses := by
    intro clauses heq
    cases heq
  have hadded : sample.addHard [registeredSample] =
      .ok { sample with hard := sample.hard.add (.hard [registeredSample]) } :=
    Encoding.addClause_eq_ok_iff.mpr ⟨haccepts, rfl⟩
  have hsplit : [[registeredSample], [registeredSample.neg, straySample.neg], [registeredSample]] =
      [[registeredSample]] ++ ([registeredSample.neg] ++ straySample.neg :: []) ::
        [[registeredSample]] := rfl
  have hstep : [[registeredSample]].foldlM Encoding.addHard sample =
      .ok { sample with hard := sample.hard.add (.hard [registeredSample]) } := by
    rw [List.foldlM_cons, hadded]
    rfl
  refine ⟨hfailed, hkeeps _ hother _ hfailed, _, hadded, (hhards _ _ _).mpr ?_⟩
  refine .before hsplit ?_ ?_ hstray hstep
  · rw [List.forall_mem_singleton]
    exact haccepts
  · intro literal hmem
    rw [List.mem_singleton.mp hmem]
    exact hknown

end Clausal
