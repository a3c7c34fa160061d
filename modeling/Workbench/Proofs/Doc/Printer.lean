import Workbench.Proofs.Doc.Alike
import Workbench.Proofs.Doc.Texts
import Workbench.Proofs.Numeral.Layout

/-!
# Documents are known by their texts

Without blanks, the text of a document says what the document is, down to the order of members. The
first character tells lists, objects and texts from each other and from words and numbers; a word or a
number goes on to the next comma or closing bracket; and the parts of a list or an object can be told
from what follows them when each of them can.

* `scalarOf_write`, `scalar_append_inj`: words and numbers;
* `opening`, `head_write`: what the first character tells;
* `Delimited`: what is written can be told from what follows it; `enclose_append_inj` says so of parts
  between brackets, `delimited_write` of documents;
* **`compactText_injective`**: documents with one text are one document.
-/

namespace Workbench.Doc

variable {d e : Doc} {r s : List Char}

/-! ## Characters -/

/-- The character that a text, a list or an object starts with. -/
def opening : Doc → Option Char
  | .str _ => some '\x22'
  | .arr _ => some '['
  | .obj _ => some '\x7b'
  | _ => none

/-- The characters that words and numbers are made of, and maybe others. The ones left out open a part
of a document, close it, or come between two. -/
def isPlain (c : Char) : Bool := c ∉ ['\x22', '[', '\x7b', ',', ']', '\x7d']

/-- All of the characters are plain, and there are some. -/
def IsWord (cs : List Char) : Prop := cs ≠ [] ∧ ∀ c ∈ cs, isPlain c = true

theorem isPlain_of_isNumeral {c : Char} (h : isNumeral c = true) : isPlain c = true := by
  have hnone : (['\x22', '[', '\x7b', ',', ']', '\x7d'].all fun c => !isNumeral c) = true := rfl
  refine decide_eq_true fun hc => ?_
  have hnot := List.all_eq_true.mp hnone c hc
  rw [h] at hnot
  cases hnot

/-! ## Words and numbers -/

theorem word_or_number (h : d.opening = none) :
    (d.write compact, d) ∈ words ∨ (∃ n, d = .int n) ∨ ∃ v, d = .real (.finite v) := by
  cases d with
  | null => exact .inl (by simp [words, write, fold, writing])
  | bool b => cases b <;> exact .inl (by simp [words, write, fold, writing, writeBool])
  | int n => exact .inr (.inl ⟨n, rfl⟩)
  | real v =>
    cases v with
    | finite v => exact .inr (.inr ⟨v, rfl⟩)
    | infinite negative =>
      cases negative <;> exact .inl (by
        simp [words, write, fold, writing, Decimal.layout, Decimal.documentWords])
    | nan => exact .inl (by simp [words, write, fold, writing, Decimal.layout, Decimal.documentWords])
  | _ => cases h

theorem words_spec : ∀ w ∈ words, w.1 ≠ [] ∧ w.1.all isPlain = true ∧ w.1.all isNumeral = false := by
  decide

theorem isWord_layout (v : FiniteDecimal) : IsWord v.layout := by
  obtain ⟨c, hc, -⟩ := v.exists_isMark_layout
  exact ⟨List.ne_nil_of_mem hc, fun c hc => isPlain_of_isNumeral (v.areNumerals_layout c hc)⟩

theorem isWord_integerText (n : Int) : IsWord (integerText n) := by
  refine ⟨?_, fun c hc => isPlain_of_isNumeral (areNumerals_integerText n c hc)⟩
  cases n with
  | ofNat n => exact decimalDigits_ne_nil n
  | negSucc n => exact List.cons_ne_nil _ _

theorem isWord_write (h : d.opening = none) : IsWord (d.write compact) := by
  rcases word_or_number h with hword | ⟨n, rfl⟩ | ⟨v, rfl⟩
  · obtain ⟨hne, hplain, -⟩ := words_spec _ hword
    exact ⟨hne, List.all_eq_true.mp hplain⟩
  · exact isWord_integerText n
  · exact isWord_layout v

/-- The document that a word or a number writes. A number with a point or an exponent is a real. -/
def scalarOf (cs : List Char) : Doc :=
  match words.lookup cs with
  | some d => d
  | none => if cs.any isMark then .real (.finite (.ofText cs)) else .int (integerOf cs)

theorem lookup_words_of_areNumerals {cs : List Char} (h : AreNumerals cs) : words.lookup cs = none := by
  refine List.lookup_eq_none_iff.mpr fun w hw => bne_iff_ne.mpr ?_
  rintro rfl
  obtain ⟨-, -, hnumeral⟩ := words_spec w hw
  rw [List.all_eq_true.mpr h] at hnumeral
  cases hnumeral

theorem lookup_words {w : List Char × Doc} (hw : w ∈ words) : words.lookup w.1 = some w.2 := by
  revert w
  decide

theorem scalarOf_write (h : d.opening = none) : scalarOf (d.write compact) = d := by
  rcases word_or_number h with hword | ⟨n, rfl⟩ | ⟨v, rfl⟩
  · rw [scalarOf, lookup_words hword]
  · have hmark : (integerText n).any isMark = false := by
      rw [List.any_eq_false]
      exact fun c hc => Bool.eq_false_iff.mp (not_isMark_of_mem_integerText hc)
    rw [show (int n).write compact = integerText n from rfl, scalarOf,
      lookup_words_of_areNumerals (areNumerals_integerText n), hmark, integerOf_integerText]
    rfl
  · have hmark : v.layout.any isMark = true := List.any_eq_true.mpr v.exists_isMark_layout
    rw [show (real (.finite v)).write compact = v.layout from rfl, scalarOf,
      lookup_words_of_areNumerals v.areNumerals_layout, hmark, FiniteDecimal.ofText_layout]
    rfl

/-- No plain character stands at the front: the text ends, or a comma or a closing bracket follows. -/
def EndsWord (r : List Char) : Prop := ∀ c ∈ r.head?, isPlain c = false

theorem takeWhile_isPlain {w : List Char} (hw : IsWord w) (hr : EndsWord r) :
    (w ++ r).takeWhile isPlain = w := by
  rw [List.takeWhile_append_of_pos hw.2]
  cases r with
  | nil => rw [List.takeWhile_nil, List.append_nil]
  | cons c r =>
    have hc : ¬ isPlain c = true := Bool.eq_false_iff.mp (hr c rfl)
    rw [List.takeWhile_cons_of_neg hc, List.append_nil]

/-- A word or a number can be told from what follows it. -/
theorem scalar_append_inj (hd : d.opening = none) (he : e.opening = none) (hr : EndsWord r)
    (hs : EndsWord s) (h : d.write compact ++ r = e.write compact ++ s) : d = e ∧ r = s := by
  have htext : d.write compact = e.write compact := by
    rw [← takeWhile_isPlain (isWord_write hd) hr, h, takeWhile_isPlain (isWord_write he) hs]
  refine ⟨?_, List.append_cancel_left (htext ▸ h)⟩
  rw [← scalarOf_write hd, htext, scalarOf_write he]

/-! ## The first character -/

/-- The first character tells what kind of document is written. -/
theorem head_write (d : Doc) (r : List Char) :
    ∃ c, (d.write compact ++ r).head? = some c ∧ c ≠ ']' ∧
      d.opening = if isPlain c then none else some c := by
  cases hopening : d.opening with
  | none =>
    obtain ⟨hne, hplain⟩ := isWord_write hopening
    obtain ⟨c, cs, hcs⟩ := List.exists_cons_of_ne_nil hne
    have hc : isPlain c = true := hplain c (hcs ▸ List.mem_cons_self ..)
    refine ⟨c, by rw [hcs]; rfl, ?_, by rw [if_pos hc]⟩
    rintro rfl
    cases hc
  | some c =>
    cases d with
    | str t => cases hopening; exact ⟨_, rfl, by decide, rfl⟩
    | arr ds => cases hopening; exact ⟨'[', by rw [write, fold_arr]; rfl, by decide, rfl⟩
    | obj ms => cases hopening; exact ⟨'\x7b', by rw [write, fold_obj]; rfl, by decide, rfl⟩
    | _ => cases hopening

theorem opening_eq (h : d.write compact ++ r = e.write compact ++ s) : d.opening = e.opening := by
  obtain ⟨c, hc, -, hd⟩ := head_write d r
  obtain ⟨c', hc', -, he⟩ := head_write e s
  rw [h, hc', Option.some.injEq] at hc
  rw [hd, he, hc]

/-! ## Parts between brackets -/

section Parts

variable {α : Type} (write : α → List Char) {closing : Char} {as bs : List α}

/-- The part `a` can be told from what follows it. -/
def Delimited (a : α) : Prop := ∀ b r s, EndsWord r → EndsWord s →
  write a ++ r = write b ++ s → a = b ∧ r = s

/-- Parts with a comma before each, the closing bracket, and what follows. -/
def follow (closing : Char) (parts : List α) (r : List Char) : List Char :=
  parts.flatMap (fun a => ',' :: write a) ++ closing :: r

theorem endsWord_follow (hclosing : isPlain closing = false) : EndsWord (follow write closing as r) := by
  cases as with
  | nil => rintro _ ⟨⟩; exact hclosing
  | cons a as => rintro _ ⟨⟩; rfl

theorem follow_inj (hclosing : isPlain closing = false) (hcomma : closing ≠ ',') :
    ∀ {as bs : List α}, (∀ a ∈ as, Delimited write a) →
      follow write closing as r = follow write closing bs s → as = bs ∧ r = s
  | [], [], _, h => ⟨rfl, List.tail_eq_of_cons_eq h⟩
  | [], b :: bs, _, h => absurd (List.head_eq_of_cons_eq h) hcomma
  | a :: as, [], _, h => absurd (List.head_eq_of_cons_eq h).symm hcomma
  | a :: as, b :: bs, has, h => by
    obtain ⟨ha, has⟩ := List.forall_mem_cons.mp has
    simp only [follow, List.flatMap_cons, List.cons_append, List.append_assoc] at h
    obtain ⟨rfl, hrest⟩ := ha b _ _ (endsWord_follow write hclosing) (endsWord_follow write hclosing)
      (List.tail_eq_of_cons_eq h)
    obtain ⟨rfl, rfl⟩ := follow_inj hclosing hcomma has hrest
    exact ⟨rfl, rfl⟩

theorem intercalate_comma_cons : ∀ (a : α) (as : List α),
    List.intercalate [','] ((a :: as).map write) = write a ++ as.flatMap fun b => ',' :: write b
  | a, [] => by simp [List.intercalate]
  | a, b :: bs => by
    have ih := intercalate_comma_cons b bs
    rw [List.map_cons] at ih
    rw [List.map_cons, List.map_cons, List.intercalate_cons_cons, ih]
    simp

theorem enclose_cons (opening : Char) (a : α) (as : List α) :
    enclose opening closing [','] ((a :: as).map write) ++ r =
      opening :: (write a ++ follow write closing as r) := by
  rw [enclose, intercalate_comma_cons, follow]
  simp

/-- Parts between brackets can be told from what follows the closing bracket. -/
theorem enclose_append_inj (opening : Char) (hclosing : isPlain closing = false)
    (hcomma : closing ≠ ',') (hhead : ∀ a r, (write a ++ r).head? ≠ some closing)
    (has : ∀ a ∈ as, Delimited write a)
    (h : enclose opening closing [','] (as.map write) ++ r =
      enclose opening closing [','] (bs.map write) ++ s) : as = bs ∧ r = s := by
  match as, bs with
  | [], [] => exact ⟨rfl, List.tail_eq_of_cons_eq (List.tail_eq_of_cons_eq h)⟩
  | [], b :: bs =>
    rw [enclose_cons] at h
    exact absurd (congrArg List.head? (List.tail_eq_of_cons_eq h)).symm (hhead b _)
  | a :: as, [] =>
    rw [enclose_cons] at h
    exact absurd (congrArg List.head? (List.tail_eq_of_cons_eq h)) (hhead a _)
  | a :: as, b :: bs =>
    obtain ⟨ha, has⟩ := List.forall_mem_cons.mp has
    rw [enclose_cons, enclose_cons] at h
    obtain ⟨rfl, hrest⟩ := ha b _ _ (endsWord_follow write hclosing) (endsWord_follow write hclosing)
      (List.tail_eq_of_cons_eq h)
    obtain ⟨rfl, rfl⟩ := follow_inj write hclosing hcomma has hrest
    exact ⟨rfl, rfl⟩

end Parts

/-! ## Documents -/

/-- How a member is written. -/
def writeMember (m : Member) : List Char := writeString m.1 ++ ':' :: m.2.write compact

theorem write_arr (ds : List Doc) :
    (arr ds).write compact = enclose '[' ']' [','] (ds.map (write compact)) := fold_arr _ ds

theorem write_obj (ms : List Member) :
    (obj ms).write compact = enclose '\x7b' '\x7d' [','] (ms.map writeMember) := by
  rw [write, fold_obj]
  refine congrArg (enclose _ _ _) (List.map_map.trans (List.map_congr_left fun m _ => ?_))
  exact List.append_assoc (writeString m.1) [':'] (m.2.write compact)

theorem head_writeMember (m : Member) (r : List Char) : (writeMember m ++ r).head? = some '\x22' := rfl

theorem delimited_writeMember {m : Member} (h : Delimited (write compact) m.2) :
    Delimited writeMember m := by
  intro n r s hr hs heq
  simp only [writeMember, List.append_assoc, List.cons_append] at heq
  obtain ⟨hname, hrest⟩ := writeString_append_inj heq
  obtain ⟨hvalue, rfl⟩ := h n.2 r s hr hs (List.tail_eq_of_cons_eq hrest)
  exact ⟨Prod.ext hname hvalue, rfl⟩

/-- **A written document can be told from what follows it.** -/
theorem delimited_write (d : Doc) : Delimited (write compact) d := by
  induction d using Doc.induct with
  | str t =>
    intro e r s _ _ h
    have hopening := opening_eq h
    cases e with
    | str u =>
      obtain ⟨rfl, rfl⟩ := writeString_append_inj h
      exact ⟨rfl, rfl⟩
    | _ => cases hopening
  | arr ds ih =>
    intro e r s _ _ h
    have hopening := opening_eq h
    cases e with
    | arr es =>
      rw [write_arr, write_arr] at h
      obtain ⟨rfl, rfl⟩ := enclose_append_inj _ '[' rfl (by decide) (fun e r hhead => by
        obtain ⟨c, hc, hne, -⟩ := head_write e r
        exact hne (Option.some.inj (hc.symm.trans hhead))) ih h
      exact ⟨rfl, rfl⟩
    | _ => cases hopening
  | obj ms ih =>
    intro e r s _ _ h
    have hopening := opening_eq h
    cases e with
    | obj ns =>
      rw [write_obj, write_obj] at h
      obtain ⟨rfl, rfl⟩ := enclose_append_inj _ '\x7b' rfl (by decide)
        (fun m r => by rw [head_writeMember]; decide)
        (fun m hm => delimited_writeMember (ih m hm)) h
      exact ⟨rfl, rfl⟩
    | _ => cases hopening
  | _ =>
    intro e r s hr hs h
    exact scalar_append_inj rfl (opening_eq h).symm hr hs h

/-- **A document is known by its text.** -/
theorem compactText_injective : Function.Injective compactText := by
  intro d e h
  have htext : d.write compact ++ [] = e.write compact ++ [] := by
    rw [List.append_nil, List.append_nil]
    exact String.ofList_injective h
  have hends : EndsWord [] := fun _ hc => by cases hc
  exact (delimited_write d e [] [] hends hends htext).1

end Workbench.Doc
