import FilteredFeed.Clause.Like
import FilteredFeed.Text.Search
import Mathlib.Data.List.Infix

namespace FilteredFeed.Clause.LikeToken

open FilteredFeed.Text

-- The text splits into consecutive pieces that match the tokens in order.
inductive Matches : List LikeToken → List Char → Prop where
  | nil : Matches [] []
  | anyChar (c : Char) {pattern text} :
      Matches pattern text → Matches (.anyChar :: pattern) (c :: text)
  | literal (c : Char) {pattern text} :
      Matches pattern text → Matches (.literal c :: pattern) (c :: text)
  | anySequence (run : List Char) {pattern text} :
      Matches pattern text → Matches (.anySequence :: pattern) (run ++ text)

section Matches

variable {pattern : List LikeToken} {text : List Char}

@[simp] theorem matches_nil_left : Matches [] text ↔ text = [] := by
  constructor
  · rintro ⟨⟩; rfl
  · rintro rfl; exact .nil

theorem matches_anyChar_cons :
    Matches (.anyChar :: pattern) text ↔ ∃ c rest, text = c :: rest ∧ Matches pattern rest := by
  constructor
  · rintro (_ | ⟨c, h⟩)
    exact ⟨c, _, rfl, h⟩
  · rintro ⟨c, rest, rfl, h⟩; exact .anyChar c h

theorem matches_literal_cons {d : Char} :
    Matches (.literal d :: pattern) text ↔ ∃ rest, text = d :: rest ∧ Matches pattern rest := by
  constructor
  · rintro (_ | _ | ⟨_, h⟩)
    exact ⟨_, rfl, h⟩
  · rintro ⟨rest, rfl, h⟩; exact .literal d h

theorem matches_anySequence_cons :
    Matches (.anySequence :: pattern) text ↔ ∃ run rest, text = run ++ rest ∧ Matches pattern rest := by
  constructor
  · rintro (_ | _ | _ | ⟨run, h⟩)
    exact ⟨run, _, rfl, h⟩
  · rintro ⟨run, rest, rfl, h⟩; exact .anySequence run h

theorem matches_nil_right : Matches pattern [] ↔ ∀ token ∈ pattern, token = .anySequence := by
  induction pattern with
  | nil => simp
  | cons token pattern ih =>
      cases token with
      | anyChar => simp [matches_anyChar_cons]
      | literal d => simp [matches_literal_cons]
      | anySequence => simp [matches_anySequence_cons, ih]

theorem matches_literals_append (chars : List Char) :
    Matches (chars.map literal ++ pattern) text ↔ ∃ rest, text = chars ++ rest ∧ Matches pattern rest := by
  induction chars generalizing text with
  | nil => simp
  | cons c chars ih =>
      simp only [List.map_cons, List.cons_append, matches_literal_cons, ih]
      constructor
      · rintro ⟨_, rfl, rest, rfl, h⟩; exact ⟨rest, rfl, h⟩
      · rintro ⟨rest, rfl, h⟩; exact ⟨_, rfl, rest, rfl, h⟩

-- Tokens for single characters take as many characters as they are.
theorem Matches.split {single : List LikeToken} (hs : .anySequence ∉ single)
    (h : Matches (single ++ pattern) text) :
    ∃ front back, text = front ++ back ∧ front.length = single.length ∧ Matches pattern back := by
  induction single generalizing text with
  | nil => exact ⟨[], text, rfl, rfl, h⟩
  | cons token single ih =>
      obtain ⟨hne, hs⟩ := not_or.mp (mt List.mem_cons.mpr hs)
      obtain ⟨c, rest, rfl, hrest⟩ : ∃ c rest, text = c :: rest ∧ Matches (single ++ pattern) rest := by
        cases token with
        | anyChar => exact matches_anyChar_cons.mp h
        | literal d =>
            obtain ⟨rest, heq, hrest⟩ := matches_literal_cons.mp h
            exact ⟨d, rest, heq, hrest⟩
        | anySequence => exact absurd rfl hne
      obtain ⟨front, back, rfl, hlen, hback⟩ := ih hs hrest
      exact ⟨c :: front, back, rfl, by simp [hlen], hback⟩

end Matches

-- How the place that is remembered leads to the current one: only tokens for single characters lie
-- between.
def ComesFrom (pattern : List LikeToken) (text : List Char) :
    Option (List LikeToken × List Char) → Prop
  | none => True
  | some (start, reached) =>
      ∃ single front, .anySequence ∉ single ∧ start = single ++ pattern ∧
        reached = front ++ text ∧ front.length = single.length

-- The sequence that is remembered can take some characters more.
def MatchesLater : Option (List LikeToken × List Char) → Prop
  | none => False
  | some (start, reached) =>
      ∃ run rest, run ≠ [] ∧ reached = run ++ rest ∧ Matches start rest

section Retry

variable {pattern : List LikeToken} {text : List Char} {last : Option (List LikeToken × List Char)}

theorem ComesFrom.next {token : LikeToken} {c : Char} (ht : token ≠ .anySequence)
    (h : ComesFrom (token :: pattern) (c :: text) last) : ComesFrom pattern text last := by
  cases last with
  | none => trivial
  | some place =>
      obtain ⟨single, front, hs, hstart, hreached, hlen⟩ := h
      exact ⟨single ++ [token], front ++ [c], by simp [hs, Ne.symm ht], by simp [hstart],
        by simp [hreached], by simp [hlen]⟩

theorem comesFrom_self : ComesFrom pattern text (some (pattern, text)) :=
  ⟨[], [], by simp, rfl, rfl, rfl⟩

-- A match found later leaves at least as much of the text to be matched by the current pattern.
theorem MatchesLater.suffix (h : ComesFrom pattern text last) (hm : MatchesLater last) :
    ∃ run rest, run ≠ [] ∧ text = run ++ rest ∧ Matches pattern rest := by
  cases last with
  | none => exact hm.elim
  | some place =>
      obtain ⟨single, front, hs, hstart, hreached, hlen⟩ := h
      obtain ⟨run, rest, hne, hrun, hmatch⟩ := hm
      rw [hstart] at hmatch
      obtain ⟨front', back, rfl, hlen', hback⟩ := hmatch.split hs
      have heq : front ++ text = (run ++ front') ++ back := by
        rw [← hreached, hrun, List.append_assoc]
      have hle : front.length ≤ (run ++ front').length := by simp; omega
      obtain ⟨extra, hextra⟩ := List.prefix_of_prefix_length_le
        (List.prefix_append front text) (heq ▸ List.prefix_append (run ++ front') back) hle
      refine ⟨extra, back, ?_, ?_, hback⟩
      · rintro rfl
        have := congrArg List.length hextra
        have := List.length_pos_iff.mpr hne
        simp only [List.length_append, List.length_nil] at *
        omega
      · rw [← hextra, List.append_assoc] at heq
        exact List.append_cancel_left heq

theorem matchesLater_cons {start : List LikeToken} {c : Char} {rest : List Char} :
    MatchesLater (some (start, c :: rest)) ↔
      Matches start rest ∨ MatchesLater (some (start, rest)) := by
  constructor
  · rintro ⟨_ | ⟨d, run⟩, tail, hne, heq, hm⟩
    · exact absurd rfl hne
    · obtain ⟨rfl, rfl⟩ := List.cons.inj heq
      cases run with
      | nil => exact .inl hm
      | cons d run => exact .inr ⟨d :: run, tail, by simp, rfl, hm⟩
  · rintro (hm | ⟨run, tail, _, rfl, hm⟩)
    · exact ⟨[c], rest, by simp, rfl, hm⟩
    · exact ⟨c :: run, tail, by simp, rfl, hm⟩

theorem not_matchesLater (h : ∀ start c rest, last = some (start, c :: rest) → False) :
    ¬MatchesLater last := by
  rcases last with _ | ⟨start, _ | ⟨c, rest⟩⟩
  · exact id
  · rintro ⟨run, tail, hne, heq, -⟩
    exact hne (List.append_eq_nil_iff.mp heq.symm).1
  · exact (h start c rest rfl).elim

-- Going back to the last sequence only is enough: what an earlier one could still take, the last
-- one can take as well.
theorem matchFrom_iff (h : ComesFrom pattern text last) :
    matchFrom pattern text last = true ↔ Matches pattern text ∨ MatchesLater last := by
  fun_induction matchFrom pattern text last with
  | case1 last pattern =>
      have hlater : ¬MatchesLater last := by
        intro hm
        obtain ⟨run, rest, hne, heq, -⟩ := hm.suffix h
        exact hne (List.append_eq_nil_iff.mp heq.symm).1
      simp [matches_nil_right, hlater]
  | case2 last c text pattern ih =>
      simp [ih (h.next (by simp)), matches_anyChar_cons]
  | case3 last c text pattern ih =>
      rw [ih comesFrom_self, matches_anySequence_cons]
      constructor
      · rintro (hm | ⟨run, rest, -, heq, hm⟩)
        · exact .inl ⟨[], _, rfl, hm⟩
        · exact .inl ⟨run, rest, heq, hm⟩
      · have hfound : (∃ run rest, c :: text = run ++ rest ∧ Matches pattern rest) →
            Matches pattern (c :: text) ∨ MatchesLater (some (pattern, c :: text)) := by
          rintro ⟨run, rest, heq, hm⟩
          by_cases hrun : run = []
          · subst hrun; exact .inl (heq ▸ hm)
          · exact .inr ⟨run, rest, hrun, heq, hm⟩
        rintro (hm | hm)
        · exact hfound hm
        · obtain ⟨run, rest, -, heq, hm⟩ := hm.suffix h
          obtain ⟨run', rest', rfl, hrest⟩ := matches_anySequence_cons.mp hm
          exact hfound ⟨run ++ run', rest', by rw [heq, List.append_assoc], hrest⟩
  | case4 last text d pattern ih =>
      simp [ih (h.next (by simp)), matches_literal_cons]
  | case5 c text d pattern hne start c' rest ih =>
      simp [ih comesFrom_self, matchesLater_cons, matches_literal_cons, Ne.symm hne]
  | case6 last c text d pattern hne hlast =>
      simp [not_matchesLater hlast, matches_literal_cons, Ne.symm hne]
  | case7 c text start c' rest ih =>
      simp [ih comesFrom_self, matchesLater_cons]
  | case8 last c text hlast => simp [not_matchesLater hlast]

theorem isMatch_iff {text : String} : isMatch pattern text = true ↔ Matches pattern text.toList := by
  have h : ComesFrom pattern text.toList none := trivial
  simp [isMatch, matchFrom_iff h, MatchesLater]

end Retry

section Search

variable {needle text : List Char}

theorem startsWith_iff : startsWith needle text = true ↔ ∃ rest, text = needle ++ rest := by
  rw [startsWith, List.isPrefixOf_iff_prefix]
  exact ⟨fun ⟨rest, h⟩ => ⟨rest, h.symm⟩, fun ⟨rest, h⟩ => ⟨rest, h.symm⟩⟩

theorem endsWith_iff : endsWith needle text = true ↔ ∃ run, text = run ++ needle := by
  rw [endsWith, List.isPrefixOf_iff_prefix, List.reverse_prefix]
  exact ⟨fun ⟨run, h⟩ => ⟨run, h.symm⟩, fun ⟨run, h⟩ => ⟨run, h.symm⟩⟩

theorem occursIn_iff : occursIn needle text = true ↔ ∃ run rest, text = run ++ (needle ++ rest) := by
  induction text with
  | nil => simp [occursIn, List.append_eq_nil_iff]
  | cons c text ih =>
      rw [occursIn, Bool.or_eq_true, ih, startsWith_iff]
      constructor
      · rintro (⟨rest, h⟩ | ⟨run, rest, rfl⟩)
        · exact ⟨[], rest, h⟩
        · exact ⟨c :: run, rest, rfl⟩
      · rintro ⟨_ | ⟨d, run⟩, rest, h⟩
        · exact .inl ⟨rest, h⟩
        · exact .inr ⟨run, rest, (List.cons.inj h).2⟩

-- A word with wild cards before it, after it, or on both sides asks what the searches ask.
theorem matches_literals_anySequence :
    Matches (needle.map literal ++ [.anySequence]) text ↔ startsWith needle text = true := by
  simp [matches_literals_append, matches_anySequence_cons, startsWith_iff]

theorem matches_anySequence_literals :
    Matches (.anySequence :: needle.map literal) text ↔ endsWith needle text = true := by
  have h (text : List Char) : Matches (needle.map literal ++ []) text ↔
      ∃ rest, text = needle ++ rest ∧ Matches [] rest := matches_literals_append needle
  simp only [List.append_nil, matches_nil_left, exists_eq_right] at h
  simp [matches_anySequence_cons, h, endsWith_iff]

theorem matches_anySequence_literals_anySequence :
    Matches (.anySequence :: (needle.map literal ++ [.anySequence])) text ↔
      occursIn needle text = true := by
  simp only [matches_anySequence_cons, matches_literals_anySequence, startsWith_iff, occursIn_iff]
  constructor
  · rintro ⟨run, _, rfl, rest, rfl⟩; exact ⟨run, rest, rfl⟩
  · rintro ⟨run, rest, rfl⟩; exact ⟨run, _, rfl, rest, rfl⟩

end Search

end FilteredFeed.Clause.LikeToken
