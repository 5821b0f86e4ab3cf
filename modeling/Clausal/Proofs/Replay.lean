import Clausal.Proofs.Encoding.Growth
import Clausal.Proofs.Formula.Translation

/-!
# Replaying a clause list

A clause list keeps its clauses and its comments apart, and a comment knows how many clauses stood
before it.  Replaying merges the two with one cursor on each: a comment that is due comes first,
then the next clause.  Whatever entries a list was offered, and however comments and clauses
alternate, this gives back those that it took in, in their order, and comes to an end.
-/

namespace Clausal

namespace ClauseList

variable {α β ε : Type}

/-! ## One line at a time -/

/-- How many clauses and comments have been replayed. -/
structure Cursor where
  clause : Nat
  comment : Nat
  deriving DecidableEq, Repr

def Cursor.start : Cursor := ⟨0, 0⟩

/-- The next line, and the cursor behind it: a comment that is due, otherwise a clause. -/
def next (list : ClauseList α) (format : Clause α → String) (c : Cursor) :
    Option (String × Cursor) :=
  match list.comments[c.comment]?.filter fun comment => comment.anchor ≤ c.clause with
  | some comment => some (Comment.line comment.text, { c with comment := c.comment + 1 })
  | none =>
      list.clauses[c.clause]?.map fun clause => (format clause, { c with clause := c.clause + 1 })

section

variable {list : ClauseList α} {format : Clause α → String} {c : Cursor}

theorem next_of_due {comment : Comment} (found : list.comments[c.comment]? = some comment)
    (due : comment.anchor ≤ c.clause) :
    list.next format c =
      some (Comment.line comment.text, { c with comment := c.comment + 1 }) := by
  rw [next, found, Option.filter_some_pos (by simpa using due)]

theorem next_of_late
    (late : ∀ comment, list.comments[c.comment]? = some comment → c.clause < comment.anchor) :
    list.next format c = list.clauses[c.clause]?.map fun clause =>
      (format clause, { c with clause := c.clause + 1 }) := by
  have hfilter : (list.comments[c.comment]?.filter fun comment =>
      comment.anchor ≤ c.clause) = none := by
    simpa [Option.filter_eq_none_iff] using late
  rw [next, hfilter]

end

/-- From this cursor on there are these lines, and then no more. -/
inductive Yields (list : ClauseList α) (format : Clause α → String) : Cursor → List String → Prop
  | done {c : Cursor} (last : list.next format c = none) : Yields list format c []
  | line {c next : Cursor} {line : String} {rest : List String}
      (first : list.next format c = some (line, next)) (more : Yields list format next rest) :
      Yields list format c (line :: rest)

theorem Yields.unique {list : ClauseList α} {format : Clause α → String} {c : Cursor}
    {lines others : List String} (h : Yields list format c lines)
    (h' : Yields list format c others) : lines = others := by
  induction h generalizing others with
  | done last =>
      cases h' with
      | done _ => rfl
      | line first _ => rw [last] at first; cases first
  | line first _ ih =>
      cases h' with
      | done last => rw [first] at last; cases last
      | line first' more' =>
          rw [first] at first'
          cases first'
          rw [ih more']

theorem replay_of_due (format : Clause α → String) {position : Nat} {comment : Comment}
    (due : comment.anchor ≤ position) (comments : List Comment) (clauses : List (Clause α)) :
    replay format position (comment :: comments) clauses =
      Comment.line comment.text :: replay format position comments clauses := by
  cases clauses <;> simp [replay, due]

/-- No comment is due: the first is not, or there is none. -/
def NoneDue (position : Nat) (comments : List Comment) : Prop :=
  ∀ comment ∈ comments.head?, position < comment.anchor

theorem takeWhile_of_noneDue {position : Nat} {comments : List Comment}
    (h : NoneDue position comments) :
    (comments.takeWhile fun comment => comment.anchor ≤ position) = [] ∧
      (comments.dropWhile fun comment => comment.anchor ≤ position) = comments := by
  cases comments with
  | nil => exact ⟨rfl, rfl⟩
  | cons comment rest =>
      have hlate : ¬ comment.anchor ≤ position := Nat.not_le.mpr (h comment rfl)
      simp [hlate]

theorem replay_nil_of_noneDue (format : Clause α → String) {position : Nat}
    {comments : List Comment} (h : NoneDue position comments) :
    replay format position comments [] = [] := by
  rw [replay, (takeWhile_of_noneDue h).1, List.map_nil]

theorem replay_cons_of_noneDue (format : Clause α → String) {position : Nat}
    {comments : List Comment} (h : NoneDue position comments) (clause : Clause α)
    (rest : List (Clause α)) :
    replay format position comments (clause :: rest) =
      format clause :: replay format (position + 1) comments rest := by
  rw [replay, (takeWhile_of_noneDue h).1, (takeWhile_of_noneDue h).2, List.map_nil,
    List.nil_append]

theorem yields_replay (list : ClauseList α) (format : Clause α → String) (c : Cursor) :
    Yields list format c
      (replay format c.clause (list.comments.toList.drop c.comment)
        (list.toList.drop c.clause)) := by
  -- The induction is on how many clauses and comments are left.
  induction hleft : (list.size - c.clause) + (list.comments.size - c.comment)
    using Nat.strongRecOn generalizing c with
  | ind left ih =>
      subst hleft
      by_cases hdue : ∃ comment, list.comments[c.comment]? = some comment ∧
          comment.anchor ≤ c.clause
      · obtain ⟨comment, hcomment, due⟩ := hdue
        obtain ⟨hlt, hget⟩ := Array.getElem?_eq_some_iff.mp hcomment
        have hdrop : list.comments.toList.drop c.comment =
            comment :: list.comments.toList.drop (c.comment + 1) := by
          rw [List.drop_eq_getElem_cons (by simpa using hlt), Array.getElem_toList, hget]
        rw [hdrop, replay_of_due format due]
        refine .line (next_of_due hcomment due) (ih _ ?_ _ rfl)
        simp only
        omega
      · have late : ∀ comment, list.comments[c.comment]? = some comment →
            c.clause < comment.anchor := fun comment hcomment =>
          Nat.not_le.mp fun due => hdue ⟨comment, hcomment, due⟩
        have hnone : NoneDue c.clause (list.comments.toList.drop c.comment) := by
          intro comment hhead
          rw [List.head?_drop, Array.getElem?_toList] at hhead
          exact late comment hhead
        have hnext : list.next format c = list.clauses[c.clause]?.map fun clause =>
            (format clause, { c with clause := c.clause + 1 }) := next_of_late late
        cases hclause : list.clauses[c.clause]? with
        | none =>
            have hend : list.toList.drop c.clause = [] := by
              rw [List.drop_eq_nil_iff, length_toList]
              exact Array.getElem?_eq_none_iff.mp hclause
            rw [hend, replay_nil_of_noneDue format hnone]
            rw [hclause, Option.map_none] at hnext
            exact .done hnext
        | some clause =>
            obtain ⟨hlt, hget⟩ := Array.getElem?_eq_some_iff.mp hclause
            have hdrop : list.toList.drop c.clause =
                clause :: list.toList.drop (c.clause + 1) := by
              rw [List.drop_eq_getElem_cons (by simpa [toList] using hlt), ← hget]
              rfl
            have hsize : c.clause < list.size := hlt
            rw [hclause, Option.map_some] at hnext
            rw [hdrop, replay_cons_of_noneDue format hnone]
            refine .line hnext (ih _ ?_ _ rfl)
            simp only
            omega

theorem yields_iff (list : ClauseList α) (format : Clause α → String) (lines : List String) :
    Yields list format .start lines ↔ lines = list.lines format := by
  have hall : Yields list format .start (list.lines format) :=
    yields_replay list format .start
  constructor
  · intro h
    exact h.unique hall
  · rintro rfl
    exact hall

/-! ## Entries -/

/-- What a clause list may be asked to take in. -/
inductive Entry (α : Type) where
  | clause (clause : Clause α)
  | comment (text : String)
  deriving DecidableEq, Repr

namespace Entry

def line (format : Clause α → String) : Entry α → String
  | clause c => format c
  | comment text => Comment.line text

/-- The list with the entry taken in; a comment may be refused. -/
def enter (list : ClauseList α) : Entry α → Except EncodingError (ClauseList α)
  | clause c => .ok (list.add c)
  | comment text => list.comment text

def isPlain : Entry α → Bool
  | clause _ => true
  | comment text => !Text.hasLineBreak text

/-- The entry with its clause replaced by the image; a comment is its own image. -/
inductive Image (f : Clause α → Except ε (Clause β)) : Entry α → Entry β → Prop
  | clause {c : Clause α} {image : Clause β} (mapped : f c = .ok image) :
      Image f (clause c) (clause image)
  | comment (text : String) : Image f (comment text) (comment text)

theorem image_rightUnique (f : Clause α → Except ε (Clause β)) : Relator.RightUnique (Image f) := by
  rintro entry image image' (⟨mapped⟩ | text) h'
  · cases h' with
    | clause mapped' => cases mapped.symm.trans mapped'; rfl
  · cases h'; rfl

end Entry

def clausesOf : List (Entry α) → List (Clause α)
  | [] => []
  | .clause c :: rest => c :: clausesOf rest
  | .comment _ :: rest => clausesOf rest

def commentsOf : Nat → List (Entry α) → List Comment
  | _, [] => []
  | position, .clause _ :: rest => commentsOf (position + 1) rest
  | position, .comment text :: rest => ⟨text, position⟩ :: commentsOf position rest

theorem clausesOf_append (first second : List (Entry α)) :
    clausesOf (first ++ second) = clausesOf first ++ clausesOf second := by
  induction first with
  | nil => rfl
  | cons entry rest ih =>
      cases entry with
      | clause c => exact congrArg (c :: ·) ih
      | comment text => exact ih

theorem commentsOf_append (position : Nat) (first second : List (Entry α)) :
    commentsOf position (first ++ second) =
      commentsOf position first ++ commentsOf (position + (clausesOf first).length) second := by
  induction first generalizing position with
  | nil => rfl
  | cons entry rest ih =>
      cases entry with
      | clause c =>
          rw [List.cons_append, commentsOf, ih, clausesOf, List.length_cons, commentsOf,
            Nat.add_assoc, Nat.add_comm 1]
      | comment text =>
          rw [List.cons_append, commentsOf, ih, commentsOf, clausesOf, List.cons_append]

theorem le_anchor_of_mem_commentsOf {position : Nat} {entries : List (Entry α)}
    {comment : Comment} (h : comment ∈ commentsOf position entries) :
    position ≤ comment.anchor := by
  induction entries generalizing position with
  | nil => cases h
  | cons entry rest ih =>
      cases entry with
      | clause c => exact Nat.le_of_succ_le (ih h)
      | comment text =>
          rcases List.mem_cons.mp h with rfl | h
          · exact Nat.le_refl _
          · exact ih h

theorem replay_entries (format : Clause α → String) (position : Nat) (entries : List (Entry α)) :
    replay format position (commentsOf position entries) (clausesOf entries) =
      entries.map (Entry.line format) := by
  induction entries generalizing position with
  | nil => rfl
  | cons entry rest ih =>
      cases entry with
      | clause c =>
          -- The comments that follow a clause know that it stands before them.
          have hnone : NoneDue position (commentsOf (position + 1) rest) :=
            fun comment hhead => le_anchor_of_mem_commentsOf (List.mem_of_mem_head? hhead)
          rw [commentsOf, clausesOf, replay_cons_of_noneDue format hnone, ih, List.map_cons]
          rfl
      | comment text =>
          rw [commentsOf, clausesOf, replay_of_due format (Nat.le_refl position), ih,
            List.map_cons]
          rfl

/-- The list holds these entries, split into clauses and comments. -/
structure Holds (list : ClauseList α) (entries : List (Entry α)) : Prop where
  clauses : list.toList = clausesOf entries
  comments : list.comments.toList = commentsOf 0 entries

theorem holds_empty : Holds (empty : ClauseList α) [] := ⟨rfl, rfl⟩

theorem exists_enter_iff {list : ClauseList α} {entry : Entry α} :
    (∃ next, entry.enter list = .ok next) ↔ entry.isPlain = true := by
  cases entry with
  | clause c => simp [Entry.enter, Entry.isPlain]
  | comment text => simp [Entry.enter, Entry.isPlain, comment_eq_ok_iff]

theorem Holds.enter {list next : ClauseList α} {entries : List (Entry α)}
    (h : list.Holds entries) {entry : Entry α} (entered : entry.enter list = .ok next) :
    next.Holds (entries ++ [entry]) := by
  cases entry with
  | clause c =>
      cases entered
      refine ⟨?_, ?_⟩
      · rw [toList_add, h.clauses, clausesOf_append]
        rfl
      · rw [commentsOf_append, ← h.comments]
        exact (List.append_nil _).symm
  | comment text =>
      obtain ⟨-, rfl⟩ := comment_eq_ok_iff.mp entered
      refine ⟨?_, ?_⟩
      · rw [toList_addComment, h.clauses, clausesOf_append]
        exact (List.append_nil _).symm
      · rw [commentsOf_append, ← h.comments, ← h.clauses, length_toList, Nat.zero_add]
        exact Array.toList_push

/-- Replaying gives these entries, a line for each, and comes to an end. -/
structure Replays (list : ClauseList α) (entries : List (Entry α)) : Prop where
  lines (format : Clause α → String) : list.lines format = entries.map (Entry.line format)
  yields (format : Clause α → String) (lines : List String) :
    Yields list format .start lines ↔ lines = entries.map (Entry.line format)

theorem Holds.replays {list : ClauseList α} {entries : List (Entry α)} (h : list.Holds entries) :
    list.Replays entries := by
  have hlines : ∀ format, list.lines format = entries.map (Entry.line format) := by
    intro format
    rw [lines, h.clauses, h.comments, replay_entries]
  refine ⟨hlines, fun format lines => ?_⟩
  rw [yields_iff, hlines]

/-! ## Images -/

theorem exists_images {f : Clause α → Except ε (Clause β)} {entries : List (Entry α)}
    {images : List (Clause β)}
    (h : List.Forall₂ (fun clause image => f clause = .ok image) (clausesOf entries) images) :
    ∃ mapped, List.Forall₂ (Entry.Image f) entries mapped ∧ clausesOf mapped = images ∧
      ∀ position, commentsOf position mapped = commentsOf position entries := by
  induction entries generalizing images with
  | nil =>
      cases h
      exact ⟨[], .nil, rfl, fun _ => rfl⟩
  | cons entry rest ih =>
      cases entry with
      | clause c =>
          obtain ⟨image, images', hfirst, hrest, rfl⟩ := List.forall₂_cons_left_iff.mp h
          obtain ⟨mapped, himages, rfl, hcomments⟩ := ih hrest
          exact ⟨.clause image :: mapped, .cons (.clause hfirst) himages, rfl,
            fun position => hcomments (position + 1)⟩
      | comment text =>
          obtain ⟨mapped, himages, hclauses, hcomments⟩ := ih h
          exact ⟨.comment text :: mapped, .cons (.comment text) himages, hclauses,
            fun position => by rw [commentsOf, hcomments, commentsOf]⟩

theorem Holds.exists_of_tryMap {list : ClauseList α} {image : ClauseList β}
    {entries : List (Entry α)} {f : Clause α → Except ε (Clause β)} (h : list.Holds entries)
    (mapped : list.tryMap f = .ok image) :
    ∃ entries', List.Forall₂ (Entry.Image f) entries entries' ∧ image.Holds entries' := by
  obtain ⟨hclauses, hcomments⟩ := tryMap_eq_ok_iff.mp mapped
  rw [h.clauses] at hclauses
  obtain ⟨entries', himages, hlist, hkept⟩ := exists_images hclauses
  refine ⟨entries', himages, hlist.symm, ?_⟩
  rw [hcomments, h.comments, hkept]

/-- The clause is the first among entries on which `f` fails, with this failure. -/
def FailsFirst (f : Clause α → Except ε (Clause β)) (entries : List (Entry α)) (failure : ε) :
    Prop :=
  ∃ before clause after, entries = before ++ .clause clause :: after ∧
    (∀ c, Entry.clause c ∈ before → ∃ image, f c = .ok image) ∧ f clause = .error failure

theorem failsFirst_comment {f : Clause α → Except ε (Clause β)} {text : String}
    {rest : List (Entry α)} {failure : ε} :
    FailsFirst f (.comment text :: rest) failure ↔ FailsFirst f rest failure := by
  constructor
  · rintro ⟨before, clause, after, heq, hbefore, hfails⟩
    cases before with
    | nil => cases heq
    | cons entry before =>
        obtain ⟨rfl, hrest⟩ := List.cons.inj heq
        exact ⟨before, clause, after, hrest,
          fun c hc => hbefore c (List.mem_cons_of_mem _ hc), hfails⟩
  · rintro ⟨before, clause, after, rfl, hbefore, hfails⟩
    refine ⟨.comment text :: before, clause, after, rfl, fun c hc => hbefore c ?_, hfails⟩
    exact (List.mem_cons.mp hc).resolve_left nofun

theorem failsFirst_clause {f : Clause α → Except ε (Clause β)} {c : Clause α}
    {rest : List (Entry α)} {failure : ε} :
    FailsFirst f (.clause c :: rest) failure ↔
      f c = .error failure ∨ (∃ image, f c = .ok image) ∧ FailsFirst f rest failure := by
  constructor
  · rintro ⟨before, clause, after, heq, hbefore, hfails⟩
    cases before with
    | nil =>
        cases heq
        exact .inl hfails
    | cons entry before =>
        obtain ⟨rfl, hrest⟩ := List.cons.inj heq
        exact .inr ⟨hbefore c List.mem_cons_self, before, clause, after, hrest,
          fun c hc => hbefore c (List.mem_cons_of_mem _ hc), hfails⟩
  · rintro (hfails | ⟨hc, before, clause, after, rfl, hbefore, hfails⟩)
    · exact ⟨[], c, rest, rfl, nofun, hfails⟩
    · refine ⟨.clause c :: before, clause, after, rfl, fun other hother => ?_, hfails⟩
      rcases List.mem_cons.mp hother with heq | hother
      · cases heq
        exact hc
      · exact hbefore other hother

theorem mapClauses_eq_error_iff {f : Clause α → Except ε (Clause β)} {entries : List (Entry α)}
    {failure : ε} :
    mapClauses f (clausesOf entries) = .error failure ↔ FailsFirst f entries failure := by
  induction entries with
  | nil =>
      refine iff_of_false nofun ?_
      rintro ⟨before, clause, after, heq, -⟩
      exact absurd heq.symm (List.append_ne_nil_of_right_ne_nil _ (List.cons_ne_nil _ _))
  | cons entry rest ih =>
      cases entry with
      | comment text => rw [clausesOf, ih, failsFirst_comment]
      | clause c =>
          rw [clausesOf, failsFirst_clause, ← ih, mapClauses]
          cases hf : f c with
          | error reason => simp
          | ok image => cases hm : mapClauses f (clausesOf rest) <;> simp

theorem Holds.tryMap_eq_error_iff {list : ClauseList α} {entries : List (Entry α)}
    (h : list.Holds entries) {f : Clause α → Except ε (Clause β)} {failure : ε} :
    list.tryMap f = .error failure ↔ FailsFirst f entries failure := by
  rw [tryMap, map_eq_error_iff, h.clauses, mapClauses_eq_error_iff]

theorem mem_clausesOf {entries : List (Entry α)} {c : Clause α} :
    c ∈ clausesOf entries ↔ Entry.clause c ∈ entries := by
  induction entries with
  | nil => simp [clausesOf]
  | cons entry rest ih => cases entry <;> simp [clausesOf, ih]

theorem Holds.exists_tryMap_iff {list : ClauseList α} {entries : List (Entry α)}
    (h : list.Holds entries) {f : Clause α → Except ε (Clause β)} :
    (∃ image, list.tryMap f = .ok image) ↔
      ∀ c, Entry.clause c ∈ entries → ∃ image, f c = .ok image := by
  simp only [← mem_clausesOf, ← h.clauses]
  rw [← exists_forall₂_iff]
  constructor
  · rintro ⟨image, mapped⟩
    exact ⟨_, (tryMap_eq_ok_iff.mp mapped).1⟩
  · rintro ⟨images, mapped⟩
    exact ⟨⟨images.toArray, list.comments⟩, tryMap_eq_ok_iff.mpr ⟨mapped, rfl⟩⟩

end ClauseList

/-! ## Journals -/

open ClauseList (Entry)

/-- A clause list beside the entries that it has taken in, in order. -/
structure Journal (α : Type) where
  list : ClauseList α
  taken : List (Entry α)

namespace Journal

variable {α β ε : Type}

def fresh : Journal α := ⟨.empty, []⟩

def offer (j : Journal α) (entry : Entry α) : Journal α :=
  match entry.enter j.list with
  | .error _ => j
  | .ok next => ⟨next, j.taken ++ [entry]⟩

def ofOffers (entries : List (Entry α)) : Journal α := entries.foldl offer fresh

theorem holds_offer {j : Journal α} (h : j.list.Holds j.taken) (entry : Entry α) :
    (j.offer entry).list.Holds (j.offer entry).taken := by
  unfold offer
  cases hentered : entry.enter j.list with
  | error failure => exact h
  | ok next => exact h.enter hentered

theorem holds_foldl {j : Journal α} (h : j.list.Holds j.taken) (entries : List (Entry α)) :
    (entries.foldl offer j).list.Holds (entries.foldl offer j).taken := by
  induction entries generalizing j with
  | nil => exact h
  | cons entry rest ih => exact ih (holds_offer h entry)

theorem holds_ofOffers (entries : List (Entry α)) :
    (ofOffers entries).list.Holds (ofOffers entries).taken :=
  holds_foldl (j := fresh) ClauseList.holds_empty entries

theorem taken_offer (j : Journal α) (entry : Entry α) :
    (j.offer entry).taken = j.taken ++ if entry.isPlain then [entry] else [] := by
  have hplain : (∃ next, entry.enter j.list = .ok next) ↔ entry.isPlain = true :=
    ClauseList.exists_enter_iff
  unfold offer
  cases hentered : entry.enter j.list with
  | error failure =>
      have hrefused : ¬ entry.isPlain = true := by
        rw [← hplain, hentered]
        rintro ⟨next, hnext⟩
        cases hnext
      rw [if_neg hrefused, List.append_nil]
  | ok next => rw [if_pos (hplain.mp ⟨next, hentered⟩)]

theorem taken_foldl (j : Journal α) (entries : List (Entry α)) :
    (entries.foldl offer j).taken = j.taken ++ entries.filter Entry.isPlain := by
  induction entries generalizing j with
  | nil => exact (List.append_nil _).symm
  | cons entry rest ih =>
      rw [List.foldl_cons, ih, taken_offer, List.filter_cons, List.append_assoc]
      cases entry.isPlain <;> rfl

/-- A clause list replays what it took in: every clause and every comment of one line that it was
offered, in that order, one line for each and then no more.  An image of the list replays the same
with every clause replaced by its image; making one fails as the first clause that has no image
fails, and only then. -/
theorem replaying_gives_history (offers : List (Entry α)) :
    (ofOffers offers).list.Replays (ofOffers offers).taken ∧
    (ofOffers offers).taken = offers.filter Entry.isPlain ∧
    ∀ {β ε : Type} (f : Clause α → Except ε (Clause β)),
      (∀ image, (ofOffers offers).list.tryMap f = .ok image →
        ∃ mapped, List.Forall₂ (Entry.Image f) (ofOffers offers).taken mapped ∧
          image.Replays mapped) ∧
      (∀ failure, (ofOffers offers).list.tryMap f = .error failure ↔
        ClauseList.FailsFirst f (ofOffers offers).taken failure) ∧
      ((∃ image, (ofOffers offers).list.tryMap f = .ok image) ↔
        ∀ c, Entry.clause c ∈ (ofOffers offers).taken → ∃ image, f c = .ok image) := by
  have holds := holds_ofOffers offers
  refine ⟨holds.replays, taken_foldl fresh offers, fun f => ⟨fun image mapped => ?_,
    fun failure => holds.tryMap_eq_error_iff, holds.exists_tryMap_iff⟩⟩
  obtain ⟨entries, himages, hholds⟩ := holds.exists_of_tryMap mapped
  exact ⟨entries, himages, hholds.replays⟩

/-- Comments before, between and behind two clauses; the one of two lines is refused. -/
def alternating : List (Entry Nat) :=
  [.comment "first", .clause (.hard [7]), .comment "two\nlines", .comment "a", .comment "b",
    .clause (.soft 3 [1, 2]), .comment "last"]

/-- The clause with every number doubled, unless it has a number that is too large. -/
def doubled (limit : Nat) (c : Clause Nat) : Except Nat (Clause Nat) :=
  match c.literals.find? (limit < ·) with
  | some large => .error large
  | none => .ok ⟨c.cost, c.literals.map (2 * ·)⟩

/-- The comments stay in their places when the clauses are mapped, and 7 is the first that cannot
be. -/
theorem alternating_replayed :
    (ofOffers alternating).list.lines (fun c => toString c.literals) =
        ["c first", "[7]", "c a", "c b", "[1, 2]", "c last"] ∧
      (∃ image, (ofOffers alternating).list.tryMap (doubled 9) = .ok image ∧
        image.lines (fun c => toString c.literals) =
          ["c first", "[14]", "c a", "c b", "[2, 4]", "c last"]) ∧
      (ofOffers alternating).list.tryMap (doubled 0) = .error 7 := by
  obtain ⟨replays, htaken, images⟩ := replaying_gives_history alternating
  have hkept : alternating.filter Entry.isPlain =
      [.comment "first", .clause (.hard [7]), .comment "a", .comment "b", .clause (.soft 3 [1, 2]),
        .comment "last"] := by cbv
  rw [hkept] at htaken
  refine ⟨?_, ?_, ?_⟩
  · rw [replays.lines, htaken]
    cbv
  · obtain ⟨hmapped, -, hexists⟩ := images (doubled 9)
    obtain ⟨image, himage⟩ := hexists.mpr (by
      rw [htaken]
      simp [doubled, Clause.hard, Clause.soft])
    obtain ⟨mapped, himages, himageReplays⟩ := hmapped image himage
    have hfirst : doubled 9 (.hard [7]) = .ok (.hard [14]) := rfl
    have hsecond : doubled 9 (.soft 3 [1, 2]) = .ok (.soft 3 [2, 4]) := rfl
    rw [htaken] at himages
    have hmapped : mapped = [.comment "first", .clause (.hard [14]), .comment "a", .comment "b",
        .clause (.soft 3 [2, 4]), .comment "last"] :=
      (Entry.image_rightUnique (doubled 9)).forall₂ himages
        (.cons (.comment _) (.cons (.clause hfirst) (.cons (.comment _) (.cons (.comment _)
          (.cons (.clause hsecond) (.cons (.comment _) .nil))))))
    refine ⟨image, himage, ?_⟩
    rw [himageReplays.lines, hmapped]
    cbv
  · refine (images (doubled 0)).2.1 7 |>.mpr ?_
    rw [htaken]
    exact ⟨[.comment "first"], .hard [7], _, rfl, by simp, rfl⟩

end Journal

end Clausal
