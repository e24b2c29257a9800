import PfsenseBackups.Search
import PfsenseBackups.Splits
import Mathlib.Algebra.Ring.Parity

/-! Which query texts a search finds wherever they occur. The value is searched in its JSON text, so
that a query is found if it occurs in what JSON writes for it. -/

namespace PfsenseBackups.SearchTexts
open Value EventLog JsonText Like Search Splits

/-! ### Texts that survive their own escape -/

/-- Backslashes, at most one quote, characters that stand for themselves, and backslashes. -/
def Unescaped (q : List Char) : Prop :=
  ∃ lead quote plain trail, q = List.replicate lead '\\' ++ quote ++ plain ++
    List.replicate trail '\\' ∧ (quote = [] ∨ quote = ['"']) ∧ ∀ char ∈ plain, Plain char

theorem escape_backslashes (count : Nat) :
    escape (List.replicate count '\\') = List.replicate (count + count) '\\' := by
  induction count with
  | zero => rfl
  | succ count ih =>
    rw [List.replicate_succ, escape_cons, ih,
      escapeChar_special (.inr rfl), Nat.add_succ, Nat.succ_add]
    rfl

/-- Such a text occurs in what is written for it. -/
theorem Unescaped.occurs {q : List Char} (unescaped : Unescaped q) : q <:+: escape q := by
  obtain ⟨lead, quote, plain, trail, rfl, one, each⟩ := unescaped
  rw [escape_append, escape_append, escape_append, escape_backslashes, escape_backslashes,
    escape_plain each]
  rcases one with rfl | rfl
  · refine ⟨List.replicate lead '\\', List.replicate trail '\\', ?_⟩
    simp only [escape, List.flatMap_nil, List.append_nil, List.replicate_add, List.append_assoc]
  · -- One more backslash stands ahead of the quote.
    have split : List.replicate (lead + lead) '\\' ++ escape ['"'] =
        List.replicate (lead + 1) '\\' ++ (List.replicate lead '\\' ++ ['"']) := by
      have slash : escape ['"'] = List.replicate 1 '\\' ++ ['"'] := rfl
      rw [slash, ← List.append_assoc, ← List.append_assoc, List.replicate_append_replicate,
        List.replicate_append_replicate]
      congr 2
      omega
    refine ⟨List.replicate (lead + 1) '\\', List.replicate trail '\\', ?_⟩
    rw [split]
    simp

/-! ### Quotes and backslashes alone -/

theorem escape_getElem_odd {chars : List Char} (special : ∀ char ∈ chars, Special char)
    (place : Nat) : (escape chars)[2 * place + 1]? = chars[place]? := by
  induction chars generalizing place with
  | nil => simp [escape]
  | cons char rest ih =>
    rw [List.forall_mem_cons] at special
    have written : escape (char :: rest) = '\\' :: char :: escape rest := by
      rw [escape_cons, escapeChar_special special.1]
      rfl
    rw [written]
    cases place with
    | zero => rfl
    | succ place => exact ih special.2 place

theorem escape_getElem_even {chars : List Char} (special : ∀ char ∈ chars, Special char)
    {place : Nat} {char : Char} (found : (escape chars)[2 * place]? = some char) : char = '\\' := by
  induction chars generalizing place with
  | nil => simp [escape] at found
  | cons first rest ih =>
    rw [List.forall_mem_cons] at special
    have written : escape (first :: rest) = '\\' :: first :: escape rest := by
      rw [escape_cons, escapeChar_special special.1]
      rfl
    rw [written] at found
    cases place with
    | zero => exact (Option.some.inj found).symm
    | succ place => exact ih special.2 found

/-- Where quotes and backslashes stand in their own escape, all quotes stand at one place: each
of them halves its distance to it. -/
theorem quote_place {chars before after : List Char} (special : ∀ char ∈ chars, Special char)
    (inside : escape chars = before ++ chars ++ after) {place : Nat}
    (quote : chars[place]? = some '"') : place + 1 = before.length := by
  induction distance : ((place : Int) + 1 - before.length).natAbs using Nat.strong_induction_on
    generalizing place with
  | _ distance ih =>
    have bound : place < chars.length := (List.getElem?_eq_some_iff.mp quote).1
    have there : (escape chars)[before.length + place]? = some '"' := by
      rw [inside, List.append_assoc, List.getElem?_append_right (Nat.le_add_right _ _),
        Nat.add_sub_cancel_left, List.getElem?_append_left bound, quote]
    rcases Nat.even_or_odd' (before.length + place) with ⟨half, even | odd⟩
    · rw [even] at there
      cases escape_getElem_even special there
    · rw [odd, escape_getElem_odd special] at there
      by_contra apart
      have nearer := ih (((half : Int) + 1 - before.length).natAbs) (by omega) there rfl
      omega

theorem backslashes_of_quoteless {chars : List Char} (special : ∀ char ∈ chars, Special char)
    (quoteless : '"' ∉ chars) : chars = List.replicate chars.length '\\' := by
  refine List.eq_replicate_iff.mpr ⟨rfl, fun char member => ?_⟩
  rcases special char member with rfl | slash
  · exact absurd member quoteless
  · exact slash

/-- Quotes and backslashes that stand in their own escape have at most one quote. -/
theorem unescaped_of_special {chars : List Char} (special : ∀ char ∈ chars, Special char)
    (inside : chars <:+: escape chars) : Unescaped chars := by
  obtain ⟨before, after, whole⟩ := inside
  by_cases quoteless : '"' ∈ chars
  · obtain ⟨lead, trail, rfl⟩ := List.append_of_mem quoteless
    have place : lead.length + 1 = before.length := quote_place special whole.symm (by simp)
    have parts : (∀ char ∈ lead, Special char) ∧ ∀ char ∈ trail, Special char :=
      ⟨fun char member => special char (by simp [member]), fun char member =>
        special char (by simp [member])⟩
    have lead' := backslashes_of_quoteless parts.1 fun member => by
      obtain ⟨other, bound, found⟩ := List.getElem_of_mem member
      have same := quote_place special whole.symm (by
        rw [List.getElem?_append_left bound, List.getElem?_eq_getElem bound, found])
      omega
    have trail' := backslashes_of_quoteless parts.2 fun member => by
      obtain ⟨other, bound, found⟩ := List.getElem_of_mem member
      have same := @quote_place _ _ _ special whole.symm (lead.length + (other + 1)) (by
        rw [List.getElem?_append_right (Nat.le_add_right _ _), Nat.add_sub_cancel_left,
          List.getElem?_cons_succ, List.getElem?_eq_getElem bound, found])
      omega
    refine ⟨lead.length, ['"'], [], trail.length, ?_, .inr rfl, nofun⟩
    rw [← lead', ← trail']
    simp
  · refine ⟨chars.length, [], [], 0, ?_, .inl rfl, nofun⟩
    rw [← backslashes_of_quoteless special quoteless]
    simp

/-! ### Quotes and backslashes around other characters -/

theorem special_escape {chars : List Char} (special : ∀ char ∈ chars, Special char) :
    ∀ char ∈ escape chars, Special char := by
  intro written member
  obtain ⟨char, listed, inside⟩ := List.mem_flatMap.mp member
  rw [escapeChar_special (special char listed), List.mem_pair] at inside
  rcases inside with rfl | rfl
  · exact .inr rfl
  · exact special written listed

theorem length_escape_special {chars : List Char} (special : ∀ char ∈ chars, Special char) :
    (escape chars).length = chars.length + chars.length := by
  induction chars with
  | nil => rfl
  | cons char rest ih =>
    rw [List.forall_mem_cons] at special
    rw [escape_cons, escapeChar_special special.1, List.length_append,
      ih special.2, List.length_cons]
    simp only [List.length_cons, List.length_nil]
    omega

theorem length_le_escape {chars : List Char} (printable : ∀ char ∈ chars, Printable char) :
    chars.length ≤ (escape chars).length := by
  induction chars with
  | nil => exact Nat.le_refl _
  | cons char rest ih =>
    rw [List.forall_mem_cons] at printable
    have below := ih printable.2
    rw [escape_cons, List.length_append, List.length_cons]
    rcases plain_or_special printable.1 with plain | special
    · rw [escapeChar_plain plain, List.length_singleton]
      omega
    · rw [escapeChar_special special, List.length_cons, List.length_singleton]
      omega

/-- What is written as it stands has no quotes and no backslashes. -/
theorem plain_of_escape_eq {chars : List Char} (printable : ∀ char ∈ chars, Printable char)
    (same : escape chars = chars) : ∀ char ∈ chars, Plain char := by
  induction chars with
  | nil => exact nofun
  | cons char rest ih =>
    rw [List.forall_mem_cons] at printable ⊢
    rw [escape_cons] at same
    rcases plain_or_special printable.1 with plain | special
    · rw [escapeChar_plain plain, List.singleton_append, List.cons.injEq] at same
      exact ⟨plain, ih printable.2 same.2⟩
    · rw [escapeChar_special special] at same
      have below := length_le_escape printable.2
      have length := congrArg List.length same
      simp only [List.length_append, List.length_cons, List.length_nil] at length
      omega

theorem lead_shape {lead before : List Char} (special : ∀ char ∈ lead, Special char)
    (whole : '"' :: escape lead = before ++ lead) :
    ∃ count quote, lead = List.replicate count '\\' ++ quote ∧ (quote = [] ∨ quote = ['"']) := by
  have lengths := congrArg List.length whole
  rw [List.length_cons, length_escape_special special, List.length_append] at lengths
  cases before with
  | nil =>
    rw [List.length_nil] at lengths
    omega
  | cons first before =>
    rw [List.cons_append, List.cons.injEq] at whole
    rw [List.length_cons] at lengths
    rcases List.eq_nil_or_concat lead with rfl | ⟨front, last, rfl⟩
    · exact ⟨0, [], rfl, .inl rfl⟩
    · have quoteless : '"' ∉ front := by
        intro member
        obtain ⟨other, bound, found⟩ := List.getElem_of_mem member
        have place := @quote_place _ before [] special (by simpa using whole.2) other (by
          rw [List.concat_eq_append, List.getElem?_append_left bound,
            List.getElem?_eq_getElem bound, found])
        rw [List.concat_eq_append, List.length_append, List.length_singleton] at lengths
        omega
      have slashes := backslashes_of_quoteless (fun char member => special char (by
        simp [member])) quoteless
      rcases special last (by simp) with rfl | rfl
      · exact ⟨front.length, ['"'], by rw [← slashes, List.concat_eq_append], .inr rfl⟩
      · refine ⟨front.length + 1, [], ?_, .inl rfl⟩
        rw [List.replicate_succ', ← slashes, List.concat_eq_append, List.append_nil]

theorem trail_shape {trail after : List Char} (special : ∀ char ∈ trail, Special char)
    (whole : escape trail ++ ['"'] = trail ++ after) :
    trail = List.replicate trail.length '\\' := by
  have inside : trail <+: escape trail := by
    have long : trail.length ≤ (escape trail).length := by
      rw [length_escape_special special]
      omega
    exact List.prefix_of_prefix_length_le ⟨after, whole.symm⟩ (List.prefix_append _ _) long
  obtain ⟨behind, split⟩ := inside
  refine backslashes_of_quoteless special fun member => ?_
  obtain ⟨other, bound, found⟩ := List.getElem_of_mem member
  have place := @quote_place _ [] behind special split.symm other (by
    rw [List.getElem?_eq_getElem bound, found])
  cases place

theorem exists_first {chars : List Char} (mixed : ∃ char ∈ chars, ¬ Special char) :
    ∃ lead first rest, chars = lead ++ first :: rest ∧ (∀ char ∈ lead, Special char) ∧
      ¬ Special first := by
  induction chars with
  | nil =>
    obtain ⟨char, member, -⟩ := mixed
    cases member
  | cons char chars ih =>
    by_cases special : Special char
    · obtain ⟨other, member, plain⟩ := mixed
      have later : other ∈ chars := by
        rcases List.mem_cons.mp member with rfl | later
        · exact absurd special plain
        · exact later
      obtain ⟨lead, first, rest, rfl, leads, start⟩ := ih ⟨other, later, plain⟩
      exact ⟨char :: lead, first, rest, rfl, List.forall_mem_cons.mpr ⟨special, leads⟩, start⟩
    · exact ⟨[], char, chars, rfl, nofun, special⟩

/-- A text with other characters, cut at the first and behind the last of them. -/
theorem exists_frame {chars : List Char} (mixed : ∃ char ∈ chars, ¬ Special char) :
    ∃ lead middle trail, chars = lead ++ (middle ++ trail) ∧ (∀ char ∈ lead, Special char) ∧
      (∀ char ∈ trail, Special char) ∧ (∃ first rest, middle = first :: rest ∧ ¬ Special first) ∧
      ∃ front last, middle = front ++ [last] ∧ ¬ Special last := by
  obtain ⟨lead, first, rest, rfl, leads, start⟩ := exists_first mixed
  have mixed' : ∃ char ∈ (first :: rest).reverse, ¬ Special char := ⟨first, by simp, start⟩
  obtain ⟨trail, last, front, split, trails, stop⟩ := exists_first mixed'
  have whole : first :: rest = front.reverse ++ [last] ++ trail.reverse := by
    rw [← List.reverse_reverse (first :: rest), split]
    simp
  refine ⟨lead, front.reverse ++ [last], trail.reverse, by rw [whole], leads,
    by simpa using trails, ?_, front.reverse, last, rfl, stop⟩
  cases shape : front.reverse with
  | nil => exact ⟨last, [], rfl, stop⟩
  | cons char others =>
    rw [shape] at whole
    exact ⟨char, others ++ [last], rfl, (List.cons.inj whole).1 ▸ start⟩

theorem filter_escape {chars : List Char} (printable : ∀ char ∈ chars, Printable char) :
    ((escape chars).filter fun char => ¬ Special char) =
      chars.filter fun char => ¬ Special char := by
  induction chars with
  | nil => rfl
  | cons char rest ih =>
    rw [List.forall_mem_cons] at printable
    rw [escape_cons, List.filter_append, ih printable.2]
    rcases plain_or_special printable.1 with plain | special
    · rw [escapeChar_plain plain, ← List.filter_append]
      rfl
    · have slash : Special '\\' := .inr rfl
      rw [escapeChar_special special]
      simp [slash, special]

/-- A quoted text with other characters that stands in its quoted escape. -/
theorem unescaped_of_mixed {chars : List Char} (printable : ∀ char ∈ chars, Printable char)
    (mixed : ∃ char ∈ chars, ¬ Special char)
    (inside : chars <:+: '"' :: (escape chars ++ ['"'])) : Unescaped chars := by
  obtain ⟨before, after, whole⟩ := inside
  have quote : Special '"' := .inl rfl
  -- No other character is left for what stands before and after.
  have around : (before.filter fun char => ¬ Special char) = [] ∧
      (after.filter fun char => ¬ Special char) = [] := by
    have others := congrArg (List.filter fun char => ¬ Special char) whole
    rw [List.filter_append, List.filter_append, List.filter_cons_of_neg (by simp [quote]),
      List.filter_append, filter_escape printable] at others
    have lengths := congrArg List.length others
    simp only [List.length_append, quote, decide_not, List.filter_cons, List.filter_nil] at lengths
    simp only [decide_true, Bool.not_true, Bool.false_eq_true, if_false, List.length_nil] at lengths
    constructor
    · refine List.eq_nil_of_length_eq_zero ?_
      simp only [decide_not]
      omega
    · refine List.eq_nil_of_length_eq_zero ?_
      simp only [decide_not]
      omega
  have special : (∀ char ∈ before, Special char) ∧ ∀ char ∈ after, Special char := by
    constructor
    · intro char member
      simpa using List.filter_eq_nil_iff.mp around.1 char member
    · intro char member
      simpa using List.filter_eq_nil_iff.mp around.2 char member
  obtain ⟨lead, middle, trail, rfl, leads, trails, ⟨first, rest, heads, start⟩,
    front, last, ends, stop⟩ := exists_frame mixed
  have inner : ∀ char ∈ middle, Printable char := fun char member => printable char (by
    simp [member])
  have opens : escape middle = first :: escape rest := by
    have plain := (plain_or_special (inner first (by simp [heads]))).resolve_right start
    rw [heads, escape_cons, escapeChar_plain plain]
    rfl
  have closes : escape middle = escape front ++ [last] := by
    have plain := (plain_or_special (inner last (by simp [ends]))).resolve_right stop
    have alone : escape [last] = [last] := escape_plain (by simpa using plain)
    rw [ends, escape_append, alone]
  have halves : ('"' :: escape lead) ++ (escape middle ++ (escape trail ++ ['"'])) =
      (before ++ lead) ++ (middle ++ (trail ++ after)) := by
    rw [escape_append, escape_append] at whole
    simpa using whole.symm
  obtain ⟨leading, behind⟩ := split_unique
    (List.forall_mem_cons.mpr ⟨quote, special_escape leads⟩)
    (List.forall_mem_append.mpr ⟨special.1, leads⟩) (by simpa [opens] using start)
    (by simpa [heads] using start) halves
  obtain ⟨same, trailing⟩ := split_unique_right
    (List.forall_mem_append.mpr ⟨special_escape trails, by simpa using quote⟩)
    (List.forall_mem_append.mpr ⟨trails, special.2⟩) (by simpa [closes] using stop)
    (by simpa [ends] using stop) behind
  obtain ⟨count, opening, lead_eq, one⟩ := lead_shape leads leading
  refine ⟨count, opening, middle, trail.length, ?_, one, plain_of_escape_eq inner same⟩
  rw [← lead_eq, ← trail_shape trails trailing, List.append_assoc]

/-! ### ASCII case -/

theorem toLower_of_big {char : Char} (big : 128 ≤ char.toNat) : char.toLower = char := by
  refine dif_neg fun letter => ?_
  have bound : char.toNat ≤ 'Z'.toNat := letter.2
  have value : 'Z'.toNat = 90 := rfl
  omega

theorem ascii_induction {motive : Char → Prop} (small : ∀ code < 128, motive (Char.ofNat code))
    (big : ∀ char, 128 ≤ char.toNat → motive char) (char : Char) : motive char := by
  by_cases ascii : char.toNat < 128
  · rw [← Char.ofNat_toNat char]
    exact small _ ascii
  · exact big char (not_lt.mp ascii)

/-- Signs that are no letters have no other case. -/
theorem toLower_eq_iff {sign : Char} (listed : sign ∈ ['%', '_', '\\', '"']) (char : Char) :
    char.toLower = sign ↔ char = sign := by
  induction char using ascii_induction with
  | small code small =>
    -- Tested as a list: all letters that might be members are too many to try.
    have every : ∀ code < 128, ['%', '_', '\\', '"'].all (fun sign =>
        (Char.ofNat code).toLower = sign ↔ Char.ofNat code = sign) = true := by decide
    exact of_decide_eq_true (List.all_eq_true.mp (every code small) sign listed)
  | big char big => rw [toLower_of_big big]

theorem printable_toLower (char : Char) : Printable char.toLower ↔ Printable char := by
  induction char using ascii_induction with
  | small code small =>
    have every : ∀ code < 128,
        (Printable (Char.ofNat code).toLower ↔ Printable (Char.ofNat code)) := by decide
    exact every code small
  | big char big => rw [toLower_of_big big]

theorem special_toLower (char : Char) : Special char.toLower ↔ Special char := by
  rw [Special, Special, toLower_eq_iff (by decide), toLower_eq_iff (by decide)]

theorem plain_toLower (char : Char) : Plain char.toLower ↔ Plain char := by
  have quote := toLower_eq_iff (by decide : '"' ∈ _) char
  have slash := toLower_eq_iff (by decide : '\\' ∈ _) char
  constructor
  · rintro ⟨printable, quoteless, slashless⟩
    exact ⟨(printable_toLower char).mp printable, quoteless ∘ quote.mpr, slashless ∘ slash.mpr⟩
  · rintro ⟨printable, quoteless, slashless⟩
    exact ⟨(printable_toLower char).mpr printable, quoteless ∘ quote.mp, slashless ∘ slash.mp⟩

/-- Where all characters are printable, letters are lowered before or after the escape. -/
theorem escape_toLower {chars : List Char} (printable : ∀ char ∈ chars, Printable char) :
    escape (chars.map Char.toLower) = (escape chars).map Char.toLower := by
  induction chars with
  | nil => rfl
  | cons char rest ih =>
    rw [List.forall_mem_cons] at printable
    rw [List.map_cons, escape_cons, ih printable.2, escape_cons, List.map_append]
    rcases plain_or_special printable.1 with plain | special
    · rw [escapeChar_plain plain, escapeChar_plain ((plain_toLower char).mpr plain)]
      rfl
    · rw [escapeChar_special special, escapeChar_special ((special_toLower char).mpr special)]
      rfl

theorem replicate_of_toLower {chars : List Char} {sign : Char} {count : Nat}
    (listed : sign ∈ ['%', '_', '\\', '"'])
    (same : chars.map Char.toLower = List.replicate count sign) :
    chars = List.replicate count sign := by
  rw [List.eq_replicate_iff] at same ⊢
  obtain ⟨length, each⟩ := same
  refine ⟨by simpa using length, fun char member => ?_⟩
  exact (toLower_eq_iff listed char).mp (each _ (List.mem_map_of_mem member))

theorem Unescaped.of_toLower {q : List Char} (unescaped : Unescaped (q.map Char.toLower)) :
    Unescaped q := by
  obtain ⟨lead, quote, plain, trail, whole, one, each⟩ := unescaped
  obtain ⟨front, last, rfl, fronts, lasts⟩ := List.map_eq_append_iff.mp whole
  obtain ⟨front, middle, rfl, fronts, middles⟩ := List.map_eq_append_iff.mp fronts
  obtain ⟨front, mark, rfl, fronts, marks⟩ := List.map_eq_append_iff.mp fronts
  refine ⟨lead, mark, middle, trail, ?_, ?_, fun char member => ?_⟩
  · rw [replicate_of_toLower (by decide) fronts, replicate_of_toLower (by decide) lasts]
  · rcases one with rfl | rfl
    · exact .inl (List.map_eq_nil_iff.mp marks)
    · have quote : mark = List.replicate 1 '"' := replicate_of_toLower (by decide) marks
      exact .inr quote
  · rw [← plain_toLower]
    exact each _ (middles ▸ List.mem_map_of_mem member)

/-! ### Stored events -/

/-- The value column holds the document of some value, as both writers of the log leave it. -/
def Stored (event : AnchorEvent) : Prop :=
  ∃ value : Val, event.value = valueJson value

theorem stored_emitted {bkp : Backup} {prevBackupId : Nat} {diff : DiffConfigs.ConfigDiff}
    {parsed : Config.ParsedConfig} {event : AnchorEvent}
    (emitted : event ∈ emitAnchorEvents bkp prevBackupId diff parsed) : Stored event := by
  obtain ⟨reported, -, rfl⟩ := List.mem_map.mp emitted
  exact ⟨reported.value, rfl⟩

theorem stored_seeded {bkp : Backup} {parsed : Config.ParsedConfig} {event : AnchorEvent}
    (seeded : event ∈ seedAnchorEvents bkp parsed) : Stored event := by
  obtain ⟨entry, -, rfl⟩ := List.mem_map.mp seeded
  exact ⟨entry.2, rfl⟩

/-- The text occurs in a string inside the value, or in the anchor id. -/
def OccursIn (q : List Char) (event : AnchorEvent) : Prop :=
  (∃ value, event.value = some value ∧ ∃ text ∈ strings value, q <:+: text.toList) ∨
    q <:+: event.anchorId.toList

/-- Every stored event that a text occurs in matches the filter. -/
def Complete (q : List Char) : Prop :=
  ∀ event : AnchorEvent, Stored event → OccursIn q event → textMatches q event = true

/-- A text finds what it occurs in, ASCII case ignored, and its special signs only match
themselves. -/
structure Literally (q : List Char) : Prop where
  found : ∀ text, textLike q text = true ↔ q.map Char.toLower <:+: text.map Char.toLower
  signs : ∀ sign ∈ ['%', '_', '\\'], ∀ char : Char, char.toLower = sign.toLower ↔ char = sign

theorem literally (q : List Char) : Literally q where
  found := textLike_iff q
  signs := by
    intro sign listed char
    have lower : sign.toLower = sign := by
      rw [toLower_eq_iff (List.mem_append_left ['"'] listed)]
    rw [lower]
    exact toLower_eq_iff (List.mem_append_left ['"'] listed) char

theorem textLike_of_occurs {q text : List Char} (inside : q <:+: text) : textLike q text = true :=
  (textLike_iff q text).mpr (inside.map Char.toLower)

theorem complete_of_unescaped {q : List Char} (unescaped : Unescaped q) : Complete q := by
  intro event _ occurs
  rw [textMatches, Bool.or_eq_true]
  rcases occurs with ⟨value, column, text, listed, inside⟩ | inside
  · refine .inl ?_
    rw [valueText, column, Option.map_some, Option.any_some]
    exact textLike_of_occurs (unescaped.occurs.trans (escape_occurs_dumps listed inside))
  · exact .inr (textLike_of_occurs inside)

/-- An event with a text as its value. -/
def hostnameEvent (text : List Char) : AnchorEvent :=
  ⟨1, none, "field-system-hostname", 10, .added, some (.str (String.ofList text))⟩

theorem stored_hostname (text : List Char) : Stored (hostnameEvent text) :=
  ⟨.str (String.ofList text), rfl⟩

theorem occurs_hostname {q text : List Char} (inside : q <:+: text) :
    OccursIn q (hostnameEvent text) :=
  .inl ⟨_, rfl, _, List.mem_singleton_self _, by rwa [String.toList_ofList]⟩

/-- A text with a character that the anchor id lacks matches the event by its value. -/
theorem written_of_matches {q text : List Char} {char : Char} (member : char ∈ q)
    (odd : ¬ Plain char) (found : textMatches q (hostnameEvent text) = true) :
    q.map Char.toLower <:+: ('"' :: (escape text ++ ['"'])).map Char.toLower := by
  rw [textMatches, Bool.or_eq_true] at found
  rcases found with found | found
  · rw [valueText, hostnameEvent, Option.map_some, Option.any_some, textLike_iff, dumps, quoted,
      String.toList_ofList] at found
    exact found
  · have anchor : ("field-system-hostname".toList.map Char.toLower).all (fun other =>
        Printable other ∧ other ≠ '"' ∧ other ≠ '\\') = true := by decide
    have inside := ((textLike_iff _ _).mp found).subset (List.mem_map_of_mem member)
    obtain ⟨printable, quoteless, slashless⟩ :=
      of_decide_eq_true (List.all_eq_true.mp anchor _ inside)
    exact absurd ((plain_toLower char).mp ⟨printable, quoteless, slashless⟩) odd

theorem printable_of_written {q text : List Char}
    (written : q.map Char.toLower <:+: ('"' :: (escape text ++ ['"'])).map Char.toLower) :
    ∀ char ∈ q, Printable char := by
  intro char member
  obtain ⟨other, listed, same⟩ := List.mem_map.mp (written.subset (List.mem_map_of_mem member))
  have printable : Printable other := by
    rw [List.mem_cons, List.mem_append, List.mem_singleton] at listed
    rcases listed with rfl | inside | rfl
    · decide
    · exact printable_escape inside
    · decide
  rwa [← printable_toLower char, ← same, printable_toLower]

/-- A text of quotes and backslashes alone, found between two letters, stands in its escape. -/
theorem occurs_of_enclosed {chars : List Char} (special : ∀ char ∈ chars, Special char)
    (inside : chars <:+: '"' :: 'a' :: (escape chars ++ ['a', '"'])) : chars <:+: escape chars := by
  have letterless : 'a' ∉ chars := fun member => absurd (special 'a' member) (by decide)
  have edge (outside : chars <:+: ['"']) : chars <:+: escape chars := by
    cases chars with
    | nil => exact List.nil_infix
    | cons char rest =>
      have short := outside.length_le
      rw [List.length_cons, List.length_singleton] at short
      obtain rfl : rest = [] := List.eq_nil_of_length_eq_zero (by omega)
      rw [escape_cons, escapeChar_special (special char List.mem_cons_self)]
      exact ⟨['\\'], [], rfl⟩
  rcases @infix_split _ _ ['"'] _ _ letterless inside with ahead | within
  · exact edge ahead
  · rcases infix_split letterless within with inner | behind
    · exact inner
    · exact edge behind

theorem unescaped_of_complete {q : List Char} (complete : Complete q) : Unescaped q := by
  by_cases every : ∀ char ∈ q, Plain char
  · exact ⟨0, [], q, 0, by simp, .inl rfl, every⟩
  · obtain ⟨odd, listed, unplain⟩ : ∃ char ∈ q, ¬ Plain char := by simpa using every
    have written (text : List Char) (inside : q <:+: text) :
        q.map Char.toLower <:+: ('"' :: (escape text ++ ['"'])).map Char.toLower :=
      written_of_matches listed unplain
        (complete _ (stored_hostname text) (occurs_hostname inside))
    have printable := printable_of_written (written q (List.infix_refl q))
    apply Unescaped.of_toLower
    by_cases mixed : ∃ char ∈ q, ¬ Special char
    · obtain ⟨char, member, other⟩ := mixed
      refine unescaped_of_mixed ?_ ⟨_, List.mem_map_of_mem member, ?_⟩ ?_
      · exact List.forall_mem_map.mpr fun char member =>
          (printable_toLower char).mpr (printable char member)
      · rwa [special_toLower]
      · rw [escape_toLower printable]
        simpa using written q (List.infix_refl q)
    · have special : ∀ char ∈ q.map Char.toLower, Special char :=
        List.forall_mem_map.mpr fun char member => (special_toLower char).mpr
          (by_contra fun other => mixed ⟨char, member, other⟩)
      refine unescaped_of_special special (occurs_of_enclosed special ?_)
      have letters : escape ('a' :: (q ++ ['a'])) = 'a' :: (escape q ++ ['a']) := by
        rw [escape_cons, escape_append]
        rfl
      have inside := written ('a' :: (q ++ ['a'])) ⟨['a'], ['a'], rfl⟩
      rw [letters] at inside
      rw [escape_toLower printable]
      simpa using inside

/-- A search finds every stored event that its text occurs in, exactly if the text is made of
backslashes, at most one quote, other printable ASCII characters and backslashes, in this order. -/
theorem search_texts (q : String) :
    (Literally q.toList ∧ Complete q.toList) ↔ Unescaped q.toList := by
  constructor
  · rintro ⟨-, complete⟩
    exact unescaped_of_complete complete
  · intro unescaped
    exact ⟨literally _, complete_of_unescaped unescaped⟩

/-- The value is stored with an escape in the place of the umlaut. -/
theorem zurich_unfound : accepted { q := "Zürich" } = true ∧
    Stored (hostnameEvent "Zürich".toList) ∧
    OccursIn "Zürich".toList (hostnameEvent "Zürich".toList) ∧
    textMatches "Zürich".toList (hostnameEvent "Zürich".toList) = false :=
  ⟨by decide +kernel, stored_hostname _, occurs_hostname (List.infix_refl _), by decide +kernel⟩

end PfsenseBackups.SearchTexts
