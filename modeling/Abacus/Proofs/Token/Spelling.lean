/-
# The tokens of a text are those that it spells

The scanner reads a text from left to right, three classes of characters in a
fixed order, two of them in runs.  A layout says without any order what comes of
it: the text is cut into the sources of readable tokens and gaps of skipped
characters, and a gap that keeps two literals or two names apart is not empty.
The two agree for every configuration and every text:

    scan config text = tokens  ↔  some spelling of the text has these tokens

From left to right a layout is built up along the scan (`exists_isSpelling`);
from right to left a layout is scanned part by part (`scan_text`).  Both ways
hang on one fact, which holds because symbols are usable: a character that could
lengthen a token is one of a token that it would run into
(`Token.continues_iff_runsInto`).
-/
import Mathlib.Data.List.Basic
import Abacus.Proofs.Token.Scan
import Abacus.Token.Spelling

namespace Abacus

open Abacus.Text

variable {config : Config} {text : List Char}

/-! ## Tokens as runs -/

theorem exists_run {test : Char → Bool} {s : String}
    (h : (!s.toList.isEmpty && s.toList.all test) = true) :
    ∃ c rest, test c = true ∧ s.toList = c :: rest ∧ rest.takeWhile test = rest := by
  obtain ⟨filled, all⟩ := Bool.and_eq_true_iff.mp h
  cases list : s.toList with
  | nil => simp [list] at filled
  | cons c rest =>
    rw [list, List.all_cons, Bool.and_eq_true, List.all_eq_true] at all
    exact ⟨c, rest, all.1, rfl, List.takeWhile_eq_self_iff.mpr all.2⟩

theorem Numeral.exists_ofRun (n : Numeral) :
    ∃ c rest, ∃ digit : c.isDigit = true,
      n.digits.toList = c :: rest.takeWhile Char.isDigit ∧ ofRun c digit rest = n := by
  obtain ⟨digits, numeral⟩ := n
  obtain ⟨c, rest, digit, list, run⟩ := exists_run numeral
  refine ⟨c, rest, digit, by rw [run, list], ?_⟩
  simp only [ofRun, run, mk.injEq]
  rw [← list, String.ofList_toList]

theorem Name.exists_ofRun {n : Name} (lettered : isLettered n.text = true) :
    ∃ c rest, isLetter c = true ∧ n.text.toList = c :: rest.takeWhile isLetter ∧ ofRun c rest = n := by
  obtain ⟨text, filled⟩ := n
  obtain ⟨c, rest, letter, list, run⟩ := exists_run lettered
  refine ⟨c, rest, letter, by rw [run, list], ?_⟩
  simp only [ofRun, run, mk.injEq]
  rw [← list, String.ofList_toList]

/-! ## The characters of a token -/

theorem Config.skips_iff {c : Char} :
    config.skips c = true ↔ c.isDigit = false ∧ config.isMark c = false ∧ isLetter c = false := by
  rw [skips, Bool.not_eq_true', Bool.or_eq_false_iff, Bool.or_eq_false_iff, and_assoc]

namespace Token

variable {t u : Token} {c : Char}

@[simp] theorem toList_source_operator (s : Symbol) : (operator s).source.toList = [s.char] := by
  simp [source, Symbol.text]

theorem source_ne_nil (t : Token) : t.source.toList ≠ [] := by
  cases t with
  | operand o =>
    cases o with
    | literal n =>
      obtain ⟨c, rest, digit, digits, same⟩ := n.exists_ofRun
      rw [source, digits]
      exact List.cons_ne_nil _ _
    | name n => exact n.text_ne
  | operator s => simp
  | opening => exact List.cons_ne_nil _ _
  | closing => exact List.cons_ne_nil _ _

theorem class_of_mem_source (readable : u.IsReadable config) (hc : c ∈ u.source.toList) :
    (∃ n, u = .operand (.literal n) ∧ c.isDigit = true) ∨
      (∃ n, u = .operand (.name n) ∧ isLetter c = true) ∨
      ((∀ o, u ≠ .operand o) ∧ config.isMark c = true) := by
  cases u with
  | operand o =>
    cases o with
    | literal n =>
      have digits := (Bool.and_eq_true_iff.mp n.isNumeral_digits).2
      exact .inl ⟨n, rfl, List.all_eq_true.mp digits c hc⟩
    | name n =>
      have letters := (Bool.and_eq_true_iff.mp readable).2
      exact .inr (.inl ⟨n, rfl, List.all_eq_true.mp letters c hc⟩)
  | operator s =>
    obtain rfl : c = s.char := by simpa using hc
    exact .inr (.inr ⟨by simp, by rw [Config.isMark_char]; exact readable⟩)
  | opening =>
    obtain rfl : c = '(' := by simpa [source] using hc
    exact .inr (.inr ⟨by simp, rfl⟩)
  | closing =>
    obtain rfl : c = ')' := by simpa [source] using hc
    exact .inr (.inr ⟨by simp, rfl⟩)

/-- A character that would lengthen a token belongs to tokens that the token would
run into, and to no others. -/
theorem continues_iff_runsInto (readable : u.IsReadable config) (hc : c ∈ u.source.toList) :
    t.continues c = true ↔ t.RunsInto u := by
  rcases class_of_mem_source readable hc with ⟨n, rfl, digit⟩ | ⟨n, rfl, letter⟩ | ⟨other, mark⟩
  · have letter := isLetter_of_isDigit digit
    rcases t with (_ | _) | _ | _ | _ <;> simp [continues, RunsInto, digit, letter]
  · have digit := isDigit_of_isLetter letter
    rcases t with (_ | _) | _ | _ | _ <;> simp [continues, RunsInto, digit, letter]
  · have digit := Config.isDigit_of_isMark mark
    have letter := Config.isLetter_of_isMark mark
    rcases t with (_ | _) | _ | _ | _ <;> simp [continues, RunsInto, digit, letter, other]

theorem skips_of_mem_source (readable : u.IsReadable config) (hc : c ∈ u.source.toList) :
    config.skips c = false := by
  rcases class_of_mem_source readable hc with ⟨n, rfl, digit⟩ | ⟨n, rfl, letter⟩ | ⟨other, mark⟩
  · simp [Config.skips, digit]
  · simp [Config.skips, letter]
  · simp [Config.skips, mark]

theorem RunsInto.symm (h : t.RunsInto u) : u.RunsInto t := by
  unfold RunsInto at h
  split at h
  next => trivial
  next => trivial
  next => cases h

theorem continues_of_skips (skipped : config.skips c = true) : t.continues c = false := by
  obtain ⟨digit, -, letter⟩ := Config.skips_iff.mp skipped
  rcases t with (_ | _) | _ | _ | _ <;> simp [continues, digit, letter]

theorem ofChar_cases (c : Char) :
    (c = '(' ∧ ofChar c = opening) ∨ (c = ')' ∧ ofChar c = closing) ∨
      ∃ s : Symbol, s.char = c ∧ ofChar c = operator s := by
  by_cases opens : c = '('
  · exact .inl ⟨opens, by rw [opens]; rfl⟩
  · by_cases closes : c = ')'
    · exact .inr (.inl ⟨closes, by rw [closes]; rfl⟩)
    · exact .inr (.inr ⟨⟨c, opens, closes⟩, rfl, ofChar_char ⟨c, opens, closes⟩⟩)

theorem source_ofChar (c : Char) : (ofChar c).source.toList = [c] := by
  rcases ofChar_cases c with ⟨rfl, same⟩ | ⟨rfl, same⟩ | ⟨s, rfl, same⟩
  · rw [same]
    rfl
  · rw [same]
    rfl
  · rw [same, toList_source_operator]

theorem isReadable_ofChar (mark : config.isMark c = true) : (ofChar c).IsReadable config := by
  rcases ofChar_cases c with ⟨rfl, same⟩ | ⟨rfl, same⟩ | ⟨s, rfl, same⟩
  · exact trivial
  · exact trivial
  · rw [Config.isMark_char] at mark
    rw [same]
    exact mark

theorem continues_ofChar (c d : Char) : (ofChar c).continues d = false := by
  rcases ofChar_cases c with ⟨_, same⟩ | ⟨_, same⟩ | ⟨s, _, same⟩ <;> rw [same] <;> rfl

end Token

/-- The source of a token is scanned as the token, in front of any text that does
not lengthen it. -/
theorem scan_source_append {t : Token} (readable : t.IsReadable config)
    (stops : ∀ c ∈ text.head?, t.continues c = false) :
    scan config (t.source.toList ++ text) = t :: scan config text := by
  cases t with
  | operand o =>
    cases o with
    | literal n =>
      obtain ⟨c, rest, digit, digits, same⟩ := n.exists_ofRun
      rw [Token.source, digits, List.cons_append, scan_digit_run digit rest stops, same]
    | name n =>
      obtain ⟨c, rest, letter, letters, same⟩ := Name.exists_ofRun readable
      rw [Token.source, letters, List.cons_append, scan_letter_run letter rest stops, same]
  | operator s =>
    have mark : config.isMark s.char = true := by rw [Config.isMark_char]; exact readable
    rw [Token.toList_source_operator, List.singleton_append,
      scan_mark (Config.isDigit_of_isMark mark) mark, Token.ofChar_char]
  | opening => exact scan_opening text
  | closing => exact scan_closing text

theorem scan_source {t : Token} (readable : t.IsReadable config) : scan config t.source.toList = [t] := by
  have read : scan config (t.source.toList ++ []) = t :: scan config [] :=
    scan_source_append readable (by simp)
  rwa [List.append_nil, scan_nil] at read

theorem scan_skipped_append {skipped : List Char} (h : ∀ c ∈ skipped, config.skips c = true)
    (text : List Char) : scan config (skipped ++ text) = scan config text := by
  induction skipped with
  | nil => rfl
  | cons c skipped ih =>
    obtain ⟨digit, mark, letter⟩ := Config.skips_iff.mp (h c List.mem_cons_self)
    rw [List.cons_append, scan_skip digit mark letter, ih fun d hd => h d (List.mem_cons_of_mem c hd)]

/-! ## Layouts -/

namespace Layout

variable {t : Token} {front gap : List Char} {parts : List (Token × List Char)} {l : Layout}

theorem text_cons : (Layout.mk front ((t, gap) :: parts)).text =
    front ++ (t.source.toList ++ (Layout.mk gap parts).text) := by
  simp [Layout.text]

namespace IsSpelling

theorem tail (h : IsSpelling config ⟨front, (t, gap) :: parts⟩) : IsSpelling config ⟨gap, parts⟩ where
  readable u hu := h.readable u (List.mem_cons_of_mem t hu)
  front_skipped := h.gaps_skipped (t, gap) List.mem_cons_self
  gaps_skipped part hpart := h.gaps_skipped part (List.mem_cons_of_mem _ hpart)
  apart before u gap' next gap'' behind split := by
    have split' : parts = before ++ (u, gap') :: (next, gap'') :: behind := split
    exact h.apart ((t, gap) :: before) u gap' next gap'' behind (by rw [split', List.cons_append])

theorem stops (h : IsSpelling config ⟨front, (t, gap) :: parts⟩) :
    ∀ c ∈ (Layout.mk gap parts).text.head?, t.continues c = false := by
  intro c hc
  cases gap with
  | cons d gap =>
    obtain rfl : d = c := by simpa [Layout.text] using hc
    exact Token.continues_of_skips (h.tail.front_skipped d List.mem_cons_self)
  | nil =>
    cases parts with
    | nil => simp [Layout.text] at hc
    | cons part parts =>
      obtain ⟨next, gap'⟩ := part
      have first : c ∈ next.source.toList := by
        obtain ⟨d, rest, source⟩ := List.exists_cons_of_ne_nil next.source_ne_nil
        obtain rfl : d = c := by simpa [text_cons, source] using hc
        rw [source]
        exact List.mem_cons_self
      have readable : next.IsReadable config := h.readable next (by simp [tokens])
      rw [Bool.eq_false_iff, Ne, Token.continues_iff_runsInto readable first]
      intro runs
      exact h.apart [] t [] next gap' parts rfl runs rfl

theorem scan_text (h : IsSpelling config l) : scan config l.text = l.tokens := by
  obtain ⟨front, parts⟩ := l
  induction parts generalizing front with
  | nil =>
    have skipped := scan_skipped_append h.front_skipped []
    rw [scan_nil] at skipped
    simpa [Layout.text, tokens] using skipped
  | cons part parts ih =>
    obtain ⟨t, gap⟩ := part
    have readable : t.IsReadable config := h.readable t List.mem_cons_self
    rw [text_cons, scan_skipped_append h.front_skipped, scan_source_append readable h.stops,
      ih gap h.tail]
    rfl

theorem cons (h : IsSpelling config l) (readable : t.IsReadable config)
    (stops : ∀ c ∈ l.text.head?, t.continues c = false) :
    IsSpelling config ⟨[], (t, l.front) :: l.parts⟩ where
  readable u hu := by
    rcases List.mem_cons.mp hu with rfl | hu
    · exact readable
    · exact h.readable u hu
  front_skipped := by simp
  gaps_skipped part hpart := by
    rcases List.mem_cons.mp hpart with rfl | hpart
    · exact h.front_skipped
    · exact h.gaps_skipped part hpart
  apart before u gap next gap' behind split runs := by
    cases before with
    | cons part before =>
      rw [List.cons_append, List.cons.injEq] at split
      exact h.apart before u gap next gap' behind split.2 runs
    | nil =>
      rw [List.nil_append, List.cons.injEq, Prod.mk.injEq] at split
      obtain ⟨⟨rfl, rfl⟩, behind_eq⟩ := split
      intro empty
      obtain ⟨c, rest, source⟩ := List.exists_cons_of_ne_nil next.source_ne_nil
      have first : c ∈ l.text.head? := by simp [Layout.text, empty, behind_eq, source]
      have member : next ∈ l.tokens := by simp [tokens, behind_eq]
      have lengthens := (Token.continues_iff_runsInto (h.readable next member)
        (c := c) (by simp [source])).mpr runs
      rw [stops c first] at lengthens
      cases lengthens

theorem skip {c : Char} (h : IsSpelling config l) (skipped : config.skips c = true) :
    IsSpelling config ⟨c :: l.front, l.parts⟩ where
  readable := h.readable
  front_skipped := List.forall_mem_cons.mpr ⟨skipped, h.front_skipped⟩
  gaps_skipped := h.gaps_skipped
  apart := h.apart

theorem filter_front (h : IsSpelling config l) : l.front.filter (fun c => !config.skips c) = [] := by
  rw [List.filter_eq_nil_iff]
  intro c hc
  simp [h.front_skipped c hc]

theorem filter_text (h : IsSpelling config l) :
    l.text.filter (fun c => !config.skips c) = l.tokens.flatMap fun t => t.source.toList := by
  obtain ⟨front, parts⟩ := l
  induction parts generalizing front with
  | nil =>
    simpa [Layout.text, tokens] using h.filter_front
  | cons part parts ih =>
    obtain ⟨t, gap⟩ := part
    have readable : t.IsReadable config := h.readable t List.mem_cons_self
    have none : front.filter (fun c => !config.skips c) = [] := h.filter_front
    have all : t.source.toList.filter (fun c => !config.skips c) = t.source.toList := by
      rw [List.filter_eq_self]
      intro c hc
      simp [Token.skips_of_mem_source readable hc]
    rw [text_cons, List.filter_append, List.filter_append, none, all, ih gap h.tail]
    rfl

theorem drop {before : List (Token × List Char)} (h : IsSpelling config ⟨front, before ++ parts⟩) :
    ∃ gap, IsSpelling config ⟨gap, parts⟩ := by
  induction before generalizing front with
  | nil => exact ⟨front, h⟩
  | cons part before ih =>
    obtain ⟨t, gap⟩ := part
    exact ih h.tail

theorem begins {before : List (Token × List Char)}
    (h : IsSpelling config ⟨front, before ++ (t, gap) :: parts⟩) :
    ∀ c ∈ (Layout.mk front before).text.getLast?, t.continues c = false := by
  intro c hc
  rcases List.eq_nil_or_concat before with rfl | ⟨others, ⟨u, between⟩, rfl⟩
  · have member : c ∈ front := by simpa [Layout.text] using List.mem_of_mem_getLast? hc
    exact Token.continues_of_skips (h.front_skipped c member)
  · have split : others.concat (u, between) ++ (t, gap) :: parts =
        others ++ (u, between) :: (t, gap) :: parts := by simp
    have ends : (Layout.mk front (others.concat (u, between))).text =
        (Layout.mk front others).text ++ (u.source.toList ++ between) := by simp [Layout.text]
    rw [ends] at hc
    by_cases empty : between = []
    · rw [empty, List.append_nil, List.getLast?_append_of_ne_nil _ u.source_ne_nil] at hc
      have readable : u.IsReadable config := h.readable u (by simp [tokens])
      rw [Bool.eq_false_iff, Ne, Token.continues_iff_runsInto readable (List.mem_of_mem_getLast? hc)]
      intro runs
      exact h.apart others u between t gap parts split runs.symm empty
    · rw [← List.append_assoc, List.getLast?_append_of_ne_nil _ empty] at hc
      have skipped := h.gaps_skipped (u, between) (by simp) c (List.mem_of_mem_getLast? hc)
      exact Token.continues_of_skips skipped

theorem isMaximal (h : IsSpelling config l) : l.IsMaximal := by
  obtain ⟨front, parts⟩ := l
  rintro before t gap behind rfl
  obtain ⟨between, rest⟩ := h.drop
  exact ⟨h.begins, rest.stops⟩

end IsSpelling

/-- Every text is a spelling of its tokens. -/
theorem exists_isSpelling (config : Config) (text : List Char) :
    ∃ l : Layout, l.IsSpelling config ∧ l.tokens = scan config text ∧ l.text = text := by
  fun_induction scan config text with
  | case1 =>
    refine ⟨⟨[], []⟩, ⟨by simp [tokens], by simp, by simp, ?_⟩, rfl, rfl⟩
    intro before t gap next gap' behind split
    simp at split
  | case2 c rest digit ih =>
    obtain ⟨l, spelling, same, text⟩ := ih
    have stops : ∀ d ∈ l.text.head?, d.isDigit = false := by
      rw [text]
      exact head?_dropWhile_stops _ rest
    have source : (Numeral.ofRun c digit rest).digits.toList = c :: rest.takeWhile Char.isDigit :=
      String.toList_ofList
    refine ⟨_, spelling.cons (t := .operand (.literal (.ofRun c digit rest))) trivial stops, ?_, ?_⟩
    · rw [← same]
      rfl
    · rw [text_cons, List.nil_append, Token.source, source, text, List.cons_append,
        List.takeWhile_append_dropWhile]
  | case3 c rest digit mark ih =>
    obtain ⟨l, spelling, same, text⟩ := ih
    have stops : ∀ d ∈ l.text.head?, (Token.ofChar c).continues d = false :=
      fun d _ => Token.continues_ofChar c d
    refine ⟨_, spelling.cons (Token.isReadable_ofChar mark) stops, ?_, ?_⟩
    · rw [← same]
      rfl
    · rw [text_cons, List.nil_append, Token.source_ofChar, text, List.singleton_append]
  | case4 c rest digit mark letter ih =>
    obtain ⟨l, spelling, same, text⟩ := ih
    have stops : ∀ d ∈ l.text.head?, isLetter d = false := by
      rw [text]
      exact head?_dropWhile_stops _ rest
    have source : (Name.ofRun c rest).text.toList = c :: rest.takeWhile isLetter :=
      String.toList_ofList
    have lettered : isLettered (Name.ofRun c rest).text = true := by
      simp [isLettered, source, letter, List.all_takeWhile]
    refine ⟨_, spelling.cons (t := .operand (.name (.ofRun c rest))) lettered stops, ?_, ?_⟩
    · rw [← same]
      rfl
    · rw [text_cons, List.nil_append, Token.source, source, text, List.cons_append,
        List.takeWhile_append_dropWhile]
  | case5 c rest digit mark letter ih =>
    obtain ⟨l, spelling, same, text⟩ := ih
    have skipped : config.skips c = true := by simp [Config.skips, digit, mark, letter]
    refine ⟨_, spelling.skip skipped, same, ?_⟩
    rw [← text]
    rfl

end Layout

/-- Every token stands in the text where it cannot be longer. -/
theorem exists_cut_of_mem_scan {text : List Char} {t : Token} (h : t ∈ scan config text) :
    t.IsReadable config ∧ ∃ before behind, text = before ++ t.source.toList ++ behind ∧
      (∀ c ∈ before.getLast?, t.continues c = false) ∧ ∀ c ∈ behind.head?, t.continues c = false := by
  obtain ⟨l, spelling, same, cut⟩ := Layout.exists_isSpelling config text
  rw [← same] at h
  refine ⟨spelling.readable t h, ?_⟩
  obtain ⟨⟨t, gap⟩, member, rfl⟩ := List.mem_map.mp h
  obtain ⟨before, behind, split⟩ := List.append_of_mem member
  obtain ⟨begins, stops⟩ := spelling.isMaximal before t gap behind split
  refine ⟨(Layout.mk l.front before).text, (Layout.mk gap behind).text, ?_, begins, stops⟩
  rw [← cut, Layout.text, split]
  simp [Layout.text]

/-- The tokens of a text are those of its spellings.  The characters that are not
skipped are kept in order, and no token could be longer. -/
theorem scan_eq_iff_spelling (config : Config) (text : String) (tokens : List Token) :
    (scan config text.toList = tokens ↔
        ∃ l : Layout, l.IsSpelling config ∧ l.tokens = tokens ∧ l.text = text.toList) ∧
      (text.toList.filter fun c => !config.skips c) =
        (scan config text.toList).flatMap (fun t => t.source.toList) ∧
      ∀ l : Layout, l.IsSpelling config → l.text = text.toList → l.IsMaximal := by
  obtain ⟨l, spelling, same, cut⟩ := Layout.exists_isSpelling config text.toList
  refine ⟨⟨?_, ?_⟩, ?_, fun l spelling _ => spelling.isMaximal⟩
  · rintro rfl
    exact ⟨l, spelling, same, cut⟩
  · rintro ⟨l, spelling, rfl, cut⟩
    rw [← cut]
    exact spelling.scan_text
  · rw [← same, ← cut]
    exact spelling.filter_text

end Abacus
