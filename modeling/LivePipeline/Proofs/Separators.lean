import Mathlib.Data.List.Infix
import LivePipeline.Operation.Textual
import LivePipeline.Proofs.Delivery

/-! Texts and their separators. The leftmost occurrence of a separator ends the first piece of a text, and the next
one is looked for behind it; this fixes the pieces. Joining them undoes the split, and exchanging every
occurrence is joining them with something else. -/

namespace LivePipeline

namespace Text

variable {separator old new text before after : List Char} {pieces : List (List Char)}

/-! ## Occurrences -/

/-- No occurrence in the text stands further left than the one between `before` and `after`. -/
structure Leftmost (separator text before after : List Char) : Prop where
  whole : text = before ++ separator ++ after
  first : ∀ earlier later, text = earlier ++ separator ++ later → before.length ≤ earlier.length

namespace Leftmost

theorem unique {before' after' : List Char} (leftmost : Leftmost separator text before after)
    (leftmost' : Leftmost separator text before' after') : before = before' ∧ after = after' := by
  have least := leftmost.first _ _ leftmost'.whole
  have least' := leftmost'.first _ _ leftmost.whole
  have same := leftmost.whole.symm.trans leftmost'.whole
  rw [List.append_assoc, List.append_assoc] at same
  obtain ⟨sameBefore, behind⟩ := List.append_inj same (by omega)
  exact ⟨sameBefore, List.append_cancel_left behind⟩

theorem contained (leftmost : Leftmost separator text before after) : separator <:+: text :=
  ⟨before, after, leftmost.whole.symm⟩

/-- The separator does not stand in what is before its leftmost occurrence. -/
theorem before_free (leftmost : Leftmost separator text before after) (present : separator ≠ []) : ¬ separator <:+: before := by
  intro ⟨earlier, later, within⟩
  have occurs : text = earlier ++ separator ++ (later ++ separator ++ after) := by
    rw [leftmost.whole, ← within]
    simp
  have least := leftmost.first _ _ occurs
  have positive := List.length_pos_of_ne_nil present
  have long := congrArg List.length within
  simp only [List.length_append] at long
  omega

theorem shorter (leftmost : Leftmost separator text before after) (present : separator ≠ []) : after.length < text.length := by
  have positive := List.length_pos_of_ne_nil present
  rw [leftmost.whole]
  simp only [List.length_append]
  omega

end Leftmost

/-- A text is cut at the leftmost occurrence. -/
theorem leftmost_of_cut? (found : cut? separator text = some (before, after)) : Leftmost separator text before after := by
  induction text generalizing before after with
  | nil =>
    simp only [cut?, List.isEmpty_iff, Option.ite_none_right_eq_some, Option.some.injEq, Prod.mk.injEq] at found
    obtain ⟨rfl, rfl, rfl⟩ := found
    exact ⟨rfl, fun _ _ _ => Nat.zero_le _⟩
  | cons c rest ih =>
    rw [cut?] at found
    split at found
    · next starts =>
      cases found
      refine ⟨?_, fun _ _ _ => Nat.zero_le _⟩
      exact (List.prefix_iff_eq_append.mp (List.isPrefixOf_iff_prefix.mp starts)).symm
    · next starts =>
      obtain ⟨⟨middle, later⟩, cut, same⟩ := Option.map_eq_some_iff.mp found
      cases same
      have leftmost := ih cut
      refine ⟨congrArg (c :: ·) leftmost.whole, ?_⟩
      intro earlier later occurs
      cases earlier with
      | nil =>
        refine absurd (List.isPrefixOf_iff_prefix.mpr ?_) starts
        exact ⟨later, occurs.symm⟩
      | cons d earlier => exact Nat.succ_le_succ (leftmost.first earlier later (List.cons.inj occurs).2)

theorem cut?_eq_none_iff : cut? separator text = none ↔ ¬ separator <:+: text := by
  induction text with
  | nil => simp [cut?]
  | cons c rest ih =>
    rw [cut?, List.infix_cons_iff, ← List.isPrefixOf_iff_prefix]
    split
    · next starts => simp [starts]
    · next starts => simp [starts, ih]

theorem contains_iff {text part : String} : contains text part = true ↔ part.toList <:+: text.toList := by
  rw [contains, Option.isSome_iff_ne_none, ne_eq, cut?_eq_none_iff, not_not]

/-! ## Pieces -/

/-- What stands between the occurrences of a separator: a piece ends at the leftmost occurrence, and the others are
those of the text behind it. -/
inductive Pieces (separator : List Char) : List Char → List (List Char) → Prop
  | last {text : List Char} : ¬ separator <:+: text → Pieces separator text [text]
  | next {text before after : List Char} {pieces : List (List Char)} : Leftmost separator text before after →
    Pieces separator after pieces → Pieces separator text (before :: pieces)

namespace Pieces

theorem unique {pieces' : List (List Char)} (divided : Pieces separator text pieces) (divided' : Pieces separator text pieces') :
    pieces = pieces' := by
  induction divided generalizing pieces' with
  | last free =>
    cases divided' with
    | last _ => rfl
    | next leftmost _ => exact absurd leftmost.contained free
  | next leftmost _ ih =>
    cases divided' with
    | last free => exact absurd leftmost.contained free
    | next leftmost' rest =>
      obtain ⟨rfl, rfl⟩ := leftmost.unique leftmost'
      rw [ih rest]

theorem ne_nil (divided : Pieces separator text pieces) : pieces ≠ [] := by
  cases divided <;> exact List.cons_ne_nil _ _

/-- Joined by the separator, the pieces are the text again. -/
theorem joined (divided : Pieces separator text pieces) : separator.intercalate pieces = text := by
  induction divided with
  | last _ => exact List.intercalate_singleton
  | next leftmost rest ih => rw [List.intercalate_cons_of_ne_nil rest.ne_nil, ih, leftmost.whole]

theorem free (divided : Pieces separator text pieces) (present : separator ≠ []) : ∀ piece ∈ pieces, ¬ separator <:+: piece := by
  induction divided with
  | last free => exact List.forall_mem_singleton.mpr free
  | next leftmost _ ih => exact List.forall_mem_cons.mpr ⟨leftmost.before_free present, ih⟩

theorem single_iff (divided : Pieces separator text pieces) : pieces.length = 1 ↔ ¬ separator <:+: text := by
  cases divided with
  | last free => exact iff_of_true rfl free
  | next leftmost rest =>
    apply iff_of_false
    · have some := List.length_pos_of_ne_nil rest.ne_nil
      rw [List.length_cons]
      omega
    · exact not_not_intro leftmost.contained

end Pieces

theorem piecesFrom_skip (separator : List Char) (piece : List Char) {skip : Nat} (within : skip ≤ text.length) :
    piecesFrom separator text skip piece = piecesFrom separator (text.drop skip) 0 piece := by
  induction skip generalizing text with
  | zero => rfl
  | succ skip ih =>
    cases text with
    | nil => cases within
    | cons c rest => exact ih (Nat.le_of_succ_le_succ within)

/-- The pieces are those of a text that is cut at its leftmost separator again and again. -/
theorem piecesFrom_eq (present : separator ≠ []) (text piece : List Char) :
    piecesFrom separator text 0 piece = match cut? separator text with
      | none => [piece.reverse ++ text]
      | some (before, after) => (piece.reverse ++ before) :: piecesFrom separator after 0 [] := by
  induction text generalizing piece with
  | nil => simp [piecesFrom, cut?, present]
  | cons c rest ih =>
    by_cases starts : separator.isPrefixOf (c :: rest)
    · have positive := List.length_pos_of_ne_nil present
      have fits : separator.length ≤ rest.length + 1 := (List.isPrefixOf_iff_prefix.mp starts).length_le
      have skips := piecesFrom_skip separator [] (show separator.length - 1 ≤ rest.length by omega)
      have behind : (c :: rest).drop separator.length = rest.drop (separator.length - 1) := by
        obtain ⟨more, counted⟩ := Nat.exists_eq_add_of_lt positive
        rw [counted, Nat.zero_add, List.drop_succ_cons, Nat.add_sub_cancel]
      simp only [piecesFrom, cut?, starts, if_true, List.append_nil, skips, behind]
    · simp only [piecesFrom, cut?, starts, Bool.false_eq_true, if_false, ih]
      cases cut? separator rest with
      | none => simp
      | some halves => simp

theorem pieces_piecesFrom (present : separator ≠ []) (text : List Char) :
    Pieces separator text (piecesFrom separator text 0 []) := by
  rw [piecesFrom_eq present]
  cases found : cut? separator text with
  | none => exact .last (cut?_eq_none_iff.mp found)
  | some halves =>
    obtain ⟨before, after⟩ := halves
    have leftmost := leftmost_of_cut? found
    have shorter := leftmost.shorter present
    exact .next leftmost (pieces_piecesFrom present after)
termination_by text.length

/-- An empty separator stands between any two characters. -/
theorem intercalate_characters (text : List Char) : ([] : List Char).intercalate (text.map fun c => [c]) = text := by
  induction text with
  | nil => rfl
  | cons c rest ih =>
    cases rest with
    | nil => rfl
    | cons d rest =>
      rw [List.map_cons, List.intercalate_cons_of_ne_nil (by simp), ih]
      rfl

theorem intercalate_split (text separator : String) : separator.intercalate (split text separator) = text := by
  apply String.toList_inj.mp
  rw [String.toList_intercalate, split]
  split
  · next empty =>
    rw [String.isEmpty_iff] at empty
    subst empty
    rw [List.map_map]
    have characters := intercalate_characters text.toList
    simpa [Function.comp_def] using characters
  · next present =>
    have present : separator.toList ≠ [] := by simpa using present
    rw [List.map_map]
    have joined := (pieces_piecesFrom present text.toList).joined
    simpa [Function.comp_def] using joined

/-- The pieces that a text is split into. -/
theorem pieces_split (text : String) {separator : String} (present : separator ≠ "") :
    Pieces separator.toList text.toList ((split text separator).map String.toList) := by
  have present' : separator.toList ≠ [] := by simpa using present
  have divided := pieces_piecesFrom present' text.toList
  simpa [split, present, Function.comp_def] using divided

/-! ## Exchanges -/

/-- Every occurrence of `old` is exchanged for `new`, from the left to the right and without overlaps. -/
inductive Exchanged (old new : List Char) : List Char → List Char → Prop
  | rest {text : List Char} : ¬ old <:+: text → Exchanged old new text text
  | next {text before after behind : List Char} : Leftmost old text before after → Exchanged old new after behind →
    Exchanged old new text (before ++ new ++ behind)

theorem Exchanged.unique {changed changed' : List Char} (exchanged : Exchanged old new text changed)
    (exchanged' : Exchanged old new text changed') : changed = changed' := by
  induction exchanged generalizing changed' with
  | rest free =>
    cases exchanged' with
    | rest _ => rfl
    | next leftmost _ => exact absurd leftmost.contained free
  | next leftmost _ ih =>
    cases exchanged' with
    | rest free => exact absurd leftmost.contained free
    | next leftmost' later =>
      obtain ⟨rfl, rfl⟩ := leftmost.unique leftmost'
      rw [ih later]

/-- Joining the pieces with another text exchanges the separators for it. -/
theorem Pieces.exchanged (divided : Pieces old text pieces) (new : List Char) : Exchanged old new text (new.intercalate pieces) := by
  induction divided with
  | last free =>
    rw [List.intercalate_singleton]
    exact .rest free
  | next leftmost rest ih =>
    rw [List.intercalate_cons_of_ne_nil rest.ne_nil]
    exact .next leftmost ih

theorem exchanged_replaceAll (text : String) {old : String} (present : old ≠ "") (new : String) :
    Exchanged old.toList new.toList text.toList (replaceAll text old new).toList := by
  have exchanged := (pieces_split text present).exchanged new.toList
  rwa [replaceAll, if_neg (by simpa using present), String.toList_intercalate]

example : split "abababa" "aba" = ["", "b", ""] ∧ replaceAll "abababa" "aba" "é" = "ébé" := by decide +kernel

end Text

/-! ## The operations -/

theorem Data.display_of_text? {data : Data} {text : String} (holds : data.text? = some text) : data.display = text := by
  obtain ⟨id, type, value⟩ := data
  cases value with
  | text held => exact Option.some.inj holds
  | _ => cases holds

namespace Operation

variable {caller : Caller} {scope : Scope} {subject separator replacement : Data} {text part new : String} {texts : List String}

theorem textPair_ok (subjected : subject.text? = some text) (separated : separator.text? = some part) (name : String)
    (arguments : List Data) : textPair name subject (separator :: arguments) = .ok (text, part) := by
  change (do return (← expectText name subject, ← expectText name separator)) = _
  rw [expectText, expect_ok subjected, expect_ok separated]
  rfl

theorem splitText_delivers (subjected : subject.text? = some text) (separated : separator.text? = some part) :
    (splitText caller scope subject [separator]).Delivers fun parts => parts.HoldsTexts (Text.split text part) := by
  apply Attempt.Delivers.read (textPair_ok subjected separated "split" [])
  exact .texts _ .string

theorem join_delivers {data : Data} (elements : data.HoldsTexts texts) (separated : separator.text? = some part) :
    (join caller scope data [separator]).Delivers fun joined => joined.text? = some (part.intercalate texts) := by
  obtain ⟨items, given, holds⟩ := elements
  have shown : items.map (·.data.display) = texts := by
    clear given
    induction holds with
    | nil => rfl
    | cons head _ ih => rw [List.map_cons, ih, Data.display_of_text? head]
  have defined : separator.value ≠ .undefined := by
    intro undefined
    rw [Data.text?, undefined] at separated
    cases separated
  rw [join]
  apply Attempt.Delivers.read (expect_ok given .array "join")
  rw [optional?_zero defined]
  apply Attempt.Delivers.read (expect_ok separated .string "join")
  rw [shown]
  exact .make fun _ => rfl

theorem textTest_delivers (subjected : subject.text? = some text) (separated : separator.text? = some part) (name : String)
    (test : String → String → Bool) :
    (textTest name test caller scope subject [separator]).Delivers fun answer => answer.bool? = some (test text part) := by
  apply Attempt.Delivers.read (textPair_ok subjected separated name [])
  exact .make fun _ => rfl

theorem textReplacement_delivers (subjected : subject.text? = some text) (separated : separator.text? = some part)
    (replaced : replacement.text? = some new) (name : String) (change : String → String → String → String) :
    (textReplacement name change caller scope subject [separator, replacement]).Delivers
      fun changed => changed.text? = some (change text part new) := by
  apply Attempt.Delivers.read (show firstTwo name [separator, replacement] = .ok (separator, replacement) from rfl)
  apply Attempt.Delivers.read (expect_ok subjected .string name)
  apply Attempt.Delivers.read (expect_ok separated .string name)
  apply Attempt.Delivers.read (expect_ok replaced .string name)
  exact .make fun _ => rfl

end Operation

open Operation in
/-- Splitting, joining and exchanging fit together. A text that is split at any separator and joined with it again is
the same text. If the separator is not empty, the parts are the pieces between its leftmost occurrences: none of
them contains it, and there is a single one just when the text does not include it. What exchanging every
occurrence of it gives is what joining the parts with the other text gives, and no other text comes of the
exchange from the left to the right. -/
theorem split_join_replace (caller : Caller) (scope : Scope) {subject separator : Data} {text part : String}
    (subjected : subject.text? = some text) (separated : separator.text? = some part) :
    Attempt.Delivers (do
      let parts ← splitText caller scope subject [separator]
      join caller scope parts [separator]) (fun joined => joined.text? = some text) ∧
    (part ≠ "" →
      Attempt.Delivers (do
        let parts ← splitText caller scope subject [separator]
        let found ← textTest "includes" Text.contains caller scope subject [separator]
        return (parts, found)) (fun (parts, found) => ∃ pieces answer, parts.HoldsTexts pieces ∧ found.bool? = some answer ∧
          Text.Pieces part.toList text.toList (pieces.map String.toList) ∧
          (∀ piece ∈ pieces, ¬ part.toList <:+: piece.toList) ∧ (answer = true ↔ part.toList <:+: text.toList) ∧
          (pieces.length = 1 ↔ answer = false)) ∧
      ∀ (replacement : Data) (new : String), replacement.text? = some new →
        Attempt.Delivers (do
          let exchanged ← textReplacement "replaceAll" Text.replaceAll caller scope subject [separator, replacement]
          let parts ← splitText caller scope subject [separator]
          let joined ← join caller scope parts [replacement]
          return (exchanged, joined)) (fun (exchanged, joined) => ∃ outcome, exchanged.text? = some outcome ∧
            joined.text? = some outcome ∧
            ∀ changed, Text.Exchanged part.toList new.toList text.toList changed.toList ↔ changed = outcome)) := by
  refine ⟨?_, fun present => ⟨?_, fun replacement new replaced => ?_⟩⟩
  · apply Attempt.Delivers.bind (splitText_delivers subjected separated)
    intro parts holds
    apply Attempt.Delivers.weaken (join_delivers holds separated)
    intro joined same
    rw [same, Text.intercalate_split]
  · apply Attempt.Delivers.bind (splitText_delivers subjected separated)
    intro parts holds
    apply Attempt.Delivers.bind (textTest_delivers subjected separated "includes" Text.contains)
    intro found answers
    have divided := Text.pieces_split text present
    have free := divided.free (by simpa using present)
    have single := divided.single_iff
    rw [List.length_map, ← Text.contains_iff, Bool.not_eq_true] at single
    refine .pure ⟨Text.split text part, Text.contains text part, holds, answers, divided, ?_, Text.contains_iff, single⟩
    exact fun piece among => free piece.toList (List.mem_map_of_mem among)
  · apply Attempt.Delivers.bind (textReplacement_delivers subjected separated replaced "replaceAll" Text.replaceAll)
    intro exchanged changes
    apply Attempt.Delivers.bind (splitText_delivers subjected separated)
    intro parts holds
    apply Attempt.Delivers.bind (join_delivers holds replaced)
    intro joined same
    have outcome := Text.exchanged_replaceAll text present new
    have agrees : Text.replaceAll text part new = new.intercalate (Text.split text part) := by
      rw [Text.replaceAll, if_neg (by simpa using present)]
    refine .pure ⟨Text.replaceAll text part new, changes, agrees ▸ same, fun changed => ⟨fun exchanged => ?_, ?_⟩⟩
    · exact String.toList_inj.mp (exchanged.unique outcome)
    · rintro rfl
      exact outcome

open Operation in
/-- Where a separator overlaps itself, its leftmost occurrence counts, and the letter between the two that are found stays. -/
theorem split_join_replace_overlapping :
    let subject : Data := ⟨"subject", .string, .text "abababa"⟩
    let separator : Data := ⟨"separator", .string, .text "aba"⟩
    let replacement : Data := ⟨"replacement", .string, .text "é"⟩
    subject.text? = some "abababa" ∧ separator.text? = some "aba" ∧ "aba" ≠ "" ∧ replacement.text? = some "é" ∧
      Attempt.Delivers (do
        let parts ← splitText (callerWithin 0) {} subject [separator]
        join (callerWithin 0) {} parts [separator]) (fun joined => joined.text? = some "abababa") ∧
      Attempt.Delivers (do
        let exchanged ← textReplacement "replaceAll" Text.replaceAll (callerWithin 0) {} subject [separator, replacement]
        let parts ← splitText (callerWithin 0) {} subject [separator]
        let joined ← join (callerWithin 0) {} parts [replacement]
        return (exchanged, joined)) (fun (exchanged, joined) => ∃ outcome, exchanged.text? = some outcome ∧
          joined.text? = some outcome ∧
          ∀ changed, Text.Exchanged "aba".toList "é".toList "abababa".toList changed.toList ↔ changed = outcome) := by
  intro subject separator replacement
  have present : "aba" ≠ "" := by decide
  have subjected : subject.text? = some "abababa" := rfl
  have separated : separator.text? = some "aba" := rfl
  have laws := split_join_replace (callerWithin 0) {} subjected separated
  exact ⟨subjected, separated, present, rfl, laws.1, (laws.2 present).2 replacement "é" rfl⟩

end LivePipeline
