import Clausal.Proofs.Family.Row
import Clausal.Proofs.Text.Numeral
import Clausal.Proofs.World.Run

/-!
# Labels

A label is a name with coordinates, so labels of one name are equal exactly if they show the same
coordinates.  Literals of a family are the same exactly if they have the same coordinates in full.
The two go together, but for rows, where a label shows the column alone, and for pairs that a
symmetric grid folds, which a label shows as they were given.
-/

namespace Clausal

/-! ## Listed coordinates -/

namespace Literal

theorem toList_word_inj {a b : UInt64} (h : (toString a).toList = (toString b).toList) : a = b := by
  have hread := Text.readUInt64?_toString b
  rw [← h, Text.readUInt64?_toString] at hread
  exact Option.some.inj hread

theorem comma_not_mem_word (a : UInt64) : ∀ c ∈ (toString a).toList, decide (c = ',') = false := by
  intro c hc
  have hdigit : c.isDigit = true := Text.isDigit_of_mem_toString (n := a.toNat) hc
  rw [decide_eq_false_iff_not]
  rintro rfl
  exact absurd hdigit (by decide)

theorem split_listed (a : UInt64) (rest : List UInt64) :
    Text.split (· = ',') (String.intercalate ", " ((a :: rest).map toString)).toList =
      (toString a).toList :: rest.map fun b => ' ' :: (toString b).toList := by
  induction rest generalizing a with
  | nil => simpa using Text.split_piece (comma_not_mem_word a)
  | cons b rest ih =>
      have htext : (String.intercalate ", " ((a :: b :: rest).map toString)).toList =
          (toString a).toList ++
            ',' :: ' ' :: (String.intercalate ", " ((b :: rest).map toString)).toList := by
        simp [String.intercalate_cons_cons]
      rw [htext, Text.split_piece_cons (comma_not_mem_word a) (by decide), Text.split,
        if_neg (by decide), ih, List.map_cons]

theorem listed_inj {a b : UInt64} {rest more : List UInt64}
    (h : String.intercalate ", " ((a :: rest).map toString) =
      String.intercalate ", " ((b :: more).map toString)) : a :: rest = b :: more := by
  have hsplit := split_listed a rest
  rw [h, split_listed b more, List.cons.injEq] at hsplit
  obtain ⟨hfirst, hrest⟩ := hsplit
  have hinj : Function.Injective fun c : UInt64 => ' ' :: (toString c).toList :=
    fun c d hcd => toList_word_inj (List.cons.inj hcd).2
  rw [toList_word_inj hfirst, List.map_injective_iff.mpr hinj hrest]

theorem indexedName_cons (name : String) (a : UInt64) (rest : List UInt64) :
    indexedName name (a :: rest) =
      name ++ "[" ++ String.intercalate ", " ((a :: rest).map toString) ++ "]" := rfl

theorem indexedName_inj {name : String} {coords other : List UInt64} :
    indexedName name coords = indexedName name other ↔ coords = other := by
  have longer (listed : String) : name ≠ name ++ "[" ++ listed ++ "]" := by
    intro h
    have hlength := congrArg String.length h
    simp only [String.length_append] at hlength
    have hbracket : "[".length = 1 := rfl
    omega
  constructor
  · intro h
    cases coords with
    | nil =>
        cases other with
        | nil => rfl
        | cons b more => exact absurd h (longer _)
    | cons a rest =>
        cases other with
        | nil => exact absurd h.symm (longer _)
        | cons b more =>
            rw [indexedName_cons, indexedName_cons, String.append_left_inj,
              String.append_right_inj] at h
            exact listed_inj h
  · exact congrArg _

def labelOf (text : String) : Option String := if text.isEmpty then none else some text

theorem labelOf_inj {text other : String} : labelOf text = labelOf other ↔ text = other := by
  constructor
  · unfold labelOf
    split <;> split <;> simp_all [String.isEmpty_iff]
  · exact congrArg _

theorem label_named (atom : Atom) (name : String) (coords : List UInt64) :
    ((ofAtom atom).named name coords).label = labelOf (indexedName name coords) := by
  unfold named withLabel labelOf
  split <;> rfl

theorem label_named_inj {atom atom' : Atom} {name : String} {coords other : List UInt64} :
    ((ofAtom atom).named name coords).label = ((ofAtom atom').named name other).label ↔
      coords = other := by
  rw [label_named, label_named, labelOf_inj, indexedName_inj]

end Literal

/-! ## Views -/

/-- How a family is asked for a literal: with coordinates of its own or of one of its slices, or in
one of its rows. -/
inductive FamilyView where
  | direct (place : Place)
  | inRow (row column : UInt64)
  deriving DecidableEq, Repr

/-- The coordinates that a label shows: what a slice leads with is there, the number of a row is
not. -/
def FamilyView.shown : FamilyView → List UInt64
  | direct place => place.full
  | inRow _ column => [column]

namespace Family

variable {φ γ : Type} [Family φ γ] {family : φ} {e e' : Encoding} {coords : γ} {literal : Literal}

theorem eq_ofAtom_of_fetch (h : (fetch family e coords).2 = .ok (e', literal)) :
    literal = .ofAtom literal.atom := by
  by_cases own : e.id = owner family
  · rw [fetch_owned own] at h
    cases given : indexOf family coords with
    | error failure => rw [given] at h; cases h
    | ok answer =>
        rw [given] at h
        obtain ⟨rfl, -⟩ := Encoding.fetch_eq_ok_iff.mp h
        rfl
  · rw [fetch_foreign own] at h
    cases h

theorem eq_named_of_ask {name : String}
    (h : (ask family e (some name) coords).2 = .ok (e', literal)) :
    literal = (Literal.ofAtom literal.atom).named name
      (labelCoords (ask family e (some name) coords).1 coords) := by
  obtain ⟨⟨next, plain⟩, hfetch, hpair⟩ := map_eq_ok_iff.mp h
  have hplain : plain = .ofAtom plain.atom := eq_ofAtom_of_fetch hfetch
  cases hpair
  rw [Literal.atom_named, ← hplain]
  rfl

end Family

theorem Slice.lead_of_ask {slice : Slice} {e : Encoding} (name? : Option String)
    (rest : List UInt64) : (Family.ask slice e name? rest).1.lead = slice.lead := by
  have asked := Family.asked_ask slice e name? rest
  generalize Family.ask slice e name? rest = answer at asked
  cases asked with
  | foreign other => rfl
  | refused own given => rfl
  | missing own given absent => exact (Slice.indexOf_eq_ok_iff.mp given).2
  | fetched own given atom adds => exact (Slice.indexOf_eq_ok_iff.mp given).2

namespace AnyFamily

def view? (family : AnyFamily) (e : Encoding) (name? : Option String) :
    FamilyView → Option (AnyFamily × Except EncodingError (Encoding × Literal))
  | .direct place => family.fetch? e name? place
  | .inRow a b =>
      match family with
      | .grid parent =>
          match parent.row a with
          | .error _ => none
          | .ok row => some (.grid parent, (Family.ask row e name? b).2)
      | _ => none

def coordsAt (family : AnyFamily) : FamilyView → List UInt64
  | .direct place => family.canonical place
  | .inRow a b => [a, b]

def plain : AnyFamily → AnyFamily
  | .grid family => .grid family.plain
  | family => family

section

variable {family next : AnyFamily} {e e' : Encoding} {name? : Option String} {view : FamilyView}
  {literal : Literal}

theorem plain_coordsOf {index : UInt32} {coords : List UInt64}
    (found : family.coordsOf index = .ok coords) : family.plain.coordsOf index = .ok coords := by
  cases family with
  | line family => exact found
  | cube family => exact found
  | tuples family => exact found
  | grid family =>
      obtain ⟨⟨a, b⟩, hpair, rfl⟩ := map_eq_ok_iff.mp found
      obtain ⟨kept, hindex⟩ := Grid.coordsOf_eq_ok_iff.mp hpair
      have hrow := (Grid.indexInRow_eq_ok_iff_of_kept kept).mpr hindex
      refine map_eq_ok_iff.mpr ⟨(a, b), Grid.coordsOf_eq_ok_iff.mpr ⟨?_, ?_⟩, rfl⟩
      · exact family.fold_plain a b
      · exact Grid.indexInRow_eq_ok_iff_plain.mp hrow

theorem Turns.plain (h : family.Turns next) : family.plain.Turns next.plain := by
  cases h with
  | same => exact .same _
  | tuples turns => exact .tuples turns

theorem Valid.plain (h : family.Valid) : family.plain.Valid := by
  cases family <;> exact h

/-! ## What a view gives -/

/-- The literal's label is made of the coordinates to show, and its index leads back to those in
full. -/
structure Shows (family next : AnyFamily) (name? : Option String) (view : FamilyView)
    (literal : Literal) : Prop where
  turns : family.Turns next
  var : literal.atom.var = family.var
  found : next.plain.coordsOf literal.atom.index = .ok (family.coordsAt view)
  labelled : ∀ name, name? = some name →
    literal = (Literal.ofAtom literal.atom).named name view.shown

theorem labelled_of_fetch? {name : String} {place : Place}
    (h : family.fetch? e (some name) place = some (next, .ok (e', literal))) :
    literal = (Literal.ofAtom literal.atom).named name place.full := by
  unfold fetch? at h
  split at h
  case h_6 => cases h
  case h_5 family lead rest =>
    split at h
    · cases h
    rename_i slice hslice
    obtain ⟨-, rfl⟩ := Slice.of_slice hslice
    have hnamed := Family.eq_named_of_ask (Prod.mk.inj (Option.some.inj h)).2
    have hcoords : Family.labelCoords (Family.ask slice e (some name) rest).1 rest =
        (Family.ask slice e (some name) rest).1.lead ++ rest := rfl
    rwa [hcoords, Slice.lead_of_ask] at hnamed
  all_goals exact Family.eq_named_of_ask (Prod.mk.inj (Option.some.inj h)).2

theorem exists_index_of_row {parent : Grid} {row : Line} {a b : UInt64}
    (hrow : parent.row a = .ok row)
    (h : (Family.ask row e name? b).2 = .ok (e', literal)) :
    ∃ index, parent.indexInRow a b = .ok index ∧ literal.atom = ⟨parent.var, index⟩ := by
  have asked := Family.asked_ask row e name? b
  generalize Family.ask row e name? b = answer at asked h
  cases asked with
  | fetched own given atom adds =>
      cases h
      obtain ⟨index, hindex, hpair⟩ := map_eq_ok_iff.mp given
      obtain ⟨rfl, -⟩ := Prod.mk.inj hpair
      obtain ⟨offset, -, rfl⟩ := Grid.row_eq_ok_iff.mp hrow
      exact ⟨index, bind_eq_ok_iff.mpr ⟨_, hrow, hindex⟩, atom⟩
  | _ => cases h

theorem shows_of_view? (h : family.view? e name? view = some (next, .ok (e', literal))) :
    family.Shows next name? view literal := by
  cases view with
  | direct place =>
      cases outcome_of_fetch? h with
      | fetched own turns var found adds =>
          refine ⟨turns, var, plain_coordsOf found, ?_⟩
          rintro name rfl
          exact labelled_of_fetch? h
  | inRow a b =>
      cases family with
      | grid parent =>
          unfold view? at h
          cases hrow : parent.row a with
          | error failure => simp only [hrow] at h; cases h
          | ok row =>
              simp only [hrow] at h
              obtain ⟨rfl, hasked⟩ := Prod.mk.inj (Option.some.inj h)
              obtain ⟨index, hindex, hatom⟩ := exists_index_of_row hrow hasked
              refine ⟨.same _, by rw [hatom]; rfl, ?_, ?_⟩
              · have hplain := Grid.indexInRow_eq_ok_iff_plain.mp hindex
                rw [hatom]
                exact map_eq_ok_iff.mpr ⟨(a, b), Grid.coordsOf_eq_ok_iff.mpr
                  ⟨parent.fold_plain a b, hplain⟩, rfl⟩
              · rintro name rfl
                exact Family.eq_named_of_ask hasked
      | _ => cases h

theorem turns_of_view? {result : Except EncodingError (Encoding × Literal)}
    (h : family.view? e name? view = some (next, result)) : family.Turns next := by
  cases view with
  | direct place =>
      cases outcome_of_fetch? h with
      | foreign other => exact .same _
      | refused own native => exact .same _
      | missing own turns absent => exact turns
      | fetched own turns var found adds => exact turns
  | inRow a b =>
      cases family with
      | grid parent =>
          unfold view? at h
          cases hrow : parent.row a with
          | error failure => simp only [hrow] at h; cases h
          | ok row =>
              simp only [hrow] at h
              obtain ⟨rfl, -⟩ := Prod.mk.inj (Option.some.inj h)
              exact .same _
      | _ => cases h

end

/-! ## Calls -/

/-- A request to a family: for which encoding, by which name, and through which view. -/
structure Call where
  encoding : Encoding
  name? : Option String
  view : FamilyView

structure Reply where
  name? : Option String
  view : FamilyView
  literal : Literal

/-- The replies to the calls that succeed, made of a family in order. -/
def replies : AnyFamily → List Call → List Reply
  | _, [] => []
  | family, call :: rest =>
      match family.view? call.encoding call.name? call.view with
      | none => family.replies rest
      | some (next, .error _) => next.replies rest
      | some (next, .ok (_, literal)) => ⟨call.name?, call.view, literal⟩ :: next.replies rest

/-- The later family leads from every index to where the former one did. -/
def Keeps (family last : AnyFamily) : Prop :=
  ∀ index coords, family.plain.coordsOf index = .ok coords →
    last.plain.coordsOf index = .ok coords

/-- What a family keeps of a reply that was made before. -/
structure Holds (family last : AnyFamily) (reply : Reply) : Prop where
  var : reply.literal.atom.var = family.var
  found : last.plain.coordsOf reply.literal.atom.index = .ok (family.coordsAt reply.view)
  labelled : ∀ name, reply.name? = some name →
    reply.literal = (Literal.ofAtom reply.literal.atom).named name reply.view.shown

section

variable {family next last : AnyFamily}

theorem Turns.coordsAt (turns : family.Turns next) (view : FamilyView) :
    next.coordsAt view = family.coordsAt view := by
  cases view with
  | direct place => exact turns.canonical place
  | inRow a b => rfl

theorem Turns.keeps (turns : family.Turns next) (keeps : next.Keeps last) : family.Keeps last :=
  fun index coords found => keeps index coords (turns.plain.coordsOf found)

theorem Turns.holds (turns : family.Turns next) {reply : Reply} (holds : next.Holds last reply) :
    family.Holds last reply :=
  ⟨holds.var.trans turns.var, turns.coordsAt reply.view ▸ holds.found, holds.labelled⟩

/-- After all calls the family still holds what it replied to each of them. -/
theorem exists_holds (valid : family.Valid) (calls : List Call) :
    ∃ last : AnyFamily, last.Valid ∧ family.Keeps last ∧
      ∀ reply ∈ family.replies calls, family.Holds last reply := by
  induction calls generalizing family with
  | nil => exact ⟨family, valid, fun _ _ found => found, nofun⟩
  | cons call rest ih =>
      rw [replies]
      cases hview : family.view? call.encoding call.name? call.view with
      | none => exact ih valid
      | some answer =>
          obtain ⟨next, result⟩ := answer
          have turns := turns_of_view? hview
          obtain ⟨last, hlast, keeps, holds⟩ := ih (turns.valid valid)
          refine ⟨last, hlast, turns.keeps keeps, ?_⟩
          cases result with
          | error failure => exact fun reply hreply => turns.holds (holds reply hreply)
          | ok made =>
              have shows := shows_of_view? hview
              refine List.forall_mem_cons.mpr ⟨?_, fun reply h => turns.holds (holds reply h)⟩
              exact ⟨shows.var, keeps _ _ shows.found, shows.labelled⟩

end

/-! ## What labels tell -/

/-- The label leaves coordinates out, or shows a pair that stands for another. -/
def Obscures (family : AnyFamily) : FamilyView → Prop
  | .inRow _ _ => True
  | .direct (.pair a b) => family.isSymmetric = true ∧ b < a
  | .direct _ => False

theorem shown_eq_coordsAt {family : AnyFamily} {view : FamilyView}
    (clear : ¬ family.Obscures view) :
    view.shown = family.coordsAt view := by
  cases view with
  | inRow a b => exact absurd trivial clear
  | direct place =>
      cases family with
      | grid family =>
          cases place with
          | pair a b =>
              have kept : family.fold a b = (a, b) := Grid.fold_eq_self_iff.mpr clear
              simp only [FamilyView.shown, coordsAt, canonical, kept, Place.full]
          | _ => rfl
      | _ => rfl

section

variable {family last : AnyFamily} {x y : Reply}

theorem Holds.same_iff (valid : last.Valid) (hx : family.Holds last x)
    (hy : family.Holds last y) :
    x.literal.same y.literal = true ↔ family.coordsAt x.view = family.coordsAt y.view := by
  rw [Literal.same_iff, Atom.eq_iff, hx.var, hy.var, and_iff_right rfl]
  constructor
  · intro hindex
    have hfound := hx.found
    rw [hindex, hy.found] at hfound
    exact (Except.ok.inj hfound).symm
  · intro hcoords
    exact index_unique valid.plain hx.found (hcoords ▸ hy.found)

theorem Holds.label_eq_iff {name : String} (hx : family.Holds last x) (hy : family.Holds last y)
    (nameX : x.name? = some name) (nameY : y.name? = some name) :
    x.literal.label = y.literal.label ↔ x.view.shown = y.view.shown := by
  rw [hx.labelled name nameX, hy.labelled name nameY, Literal.label_named_inj]

end

/-- Literals that a family gives by one name have the same label exactly if the same coordinates are
shown, and are the same exactly if their coordinates in full are.  So a label tells which literal it
is on, unless that was asked for in a row or as a folded pair. -/
theorem labels_tell_shown_coordinates {e e' : Encoding} {shape : Shape} {family : AnyFamily}
    (made : e.newFamily shape = .ok (e', family)) (calls : List Call) {x y : Reply}
    (hx : x ∈ family.replies calls) (hy : y ∈ family.replies calls) {name : String}
    (nameX : x.name? = some name) (nameY : y.name? = some name) :
    x.literal = (Literal.ofAtom x.literal.atom).named name x.view.shown ∧
    (x.literal.label = y.literal.label ↔ x.view.shown = y.view.shown) ∧
    (x.literal.same y.literal = true ↔ family.coordsAt x.view = family.coordsAt y.view) ∧
    (¬ family.Obscures x.view → ¬ family.Obscures y.view →
      (x.literal.label = y.literal.label ↔ x.literal.same y.literal = true)) := by
  obtain ⟨last, valid, -, holds⟩ :=
    exists_holds (Encoding.allocates_of_newFamily made).valid calls
  have holdsX := holds x hx
  have holdsY := holds y hy
  have hlabel := holdsX.label_eq_iff holdsY nameX nameY
  have hsame := holdsX.same_iff valid holdsY
  refine ⟨holdsX.labelled name nameX, hlabel, hsame, fun clearX clearY => ?_⟩
  rw [hlabel, hsame, shown_eq_coordsAt clearX, shown_eq_coordsAt clearY]

def single : Encoding := ⟨0, #[.fresh none], #[], .empty, .empty⟩

/-- A pair, its reverse, and one column of two rows, all asked for by one name. -/
def turned : List Call :=
  [⟨single, some "x", .direct (.pair 1 2)⟩, ⟨single, some "x", .direct (.pair 2 1)⟩,
    ⟨single, some "x", .inRow 0 1⟩, ⟨single, some "x", .inRow 1 1⟩]

theorem replies_turned (symmetric : Bool) :
    replies (.grid ⟨0, firstVariable, 4, symmetric⟩) turned =
      [⟨some "x", .direct (.pair 1 2), ⟨⟨firstVariable, 6⟩, false, some "x[1, 2]"⟩⟩,
        ⟨some "x", .direct (.pair 2 1),
          ⟨⟨firstVariable, if symmetric then 6 else 9⟩, false, some "x[2, 1]"⟩⟩,
        ⟨some "x", .inRow 0 1, ⟨⟨firstVariable, 1⟩, false, some "x[1]"⟩⟩,
        ⟨some "x", .inRow 1 1, ⟨⟨firstVariable, 5⟩, false, some "x[1]"⟩⟩] := by
  cases symmetric <;> rfl

theorem turned_labels :
    ∃ first second third fourth,
      replies (.grid ⟨0, firstVariable, 4, true⟩) turned = [first, second, third, fourth] ∧
      first.literal.same second.literal = true ∧
      first.literal.label ≠ second.literal.label ∧
      third.literal.label = fourth.literal.label ∧
      third.literal.same fourth.literal = false := by
  have made : (Encoding.empty 0).newFamily (.grid 4 true) =
      .ok (single, .grid ⟨0, firstVariable, 4, true⟩) := rfl
  have labels {x y : Reply} (hx : x ∈ replies (.grid ⟨0, firstVariable, 4, true⟩) turned)
      (hy : y ∈ replies (.grid ⟨0, firstVariable, 4, true⟩) turned)
      (nameX : x.name? = some "x") (nameY : y.name? = some "x") :=
    labels_tell_shown_coordinates made turned hx hy nameX nameY
  rw [replies_turned] at labels ⊢
  obtain ⟨-, hlabel, hsame, -⟩ := labels (.head _) (.tail _ (.head _)) rfl rfl
  obtain ⟨-, hlabel', hsame', -⟩ :=
    labels (.tail _ (.tail _ (.head _))) (.tail _ (.tail _ (.tail _ (.head _)))) rfl rfl
  refine ⟨_, _, _, _, rfl, hsame.mpr rfl, mt hlabel.mp ?_, hlabel'.mpr rfl, ?_⟩
  · decide
  · rw [Bool.eq_false_iff]
    exact mt hsame'.mp (by decide)

/-- A label does not tell which literal it is on, not even where nothing is folded. -/
theorem not_labels_identify :
    ¬ ∀ (e e' : Encoding) (shape : Shape) (family : AnyFamily),
      e.newFamily shape = .ok (e', family) → ∀ (calls : List Call) (name : String),
        ∀ x ∈ family.replies calls, ∀ y ∈ family.replies calls,
          x.name? = some name → y.name? = some name →
            (x.literal.label = y.literal.label ↔ x.literal.same y.literal = true) := by
  intro identify
  have labels := identify (.empty 0) single (.grid 4 false) (.grid ⟨0, firstVariable, 4, false⟩)
    rfl turned "x"
  rw [replies_turned] at labels
  have hrows := labels _ (.tail _ (.tail _ (.head _))) _
    (.tail _ (.tail _ (.tail _ (.head _)))) rfl rfl
  exact absurd (hrows.mp rfl) (by decide)

end AnyFamily

end Clausal
