import FilteredFeed.Proofs.Clause.Like

namespace FilteredFeed.Clause.LikeToken

-- The pieces of text that a token takes.
def Takes : LikeToken → List Char → Prop
  | .literal c, piece => piece = [c]
  | .anyChar, piece => ∃ c, piece = [c]
  | .anySequence, _ => True

-- Full backtracking: every sequence tries all that it could take, the shortest first.
def search : List LikeToken → List Char → Bool
  | [], text => text.isEmpty
  | .anyChar :: pattern, text =>
      match text with
      | [] => false
      | _ :: rest => search pattern rest
  | .literal d :: pattern, text =>
      match text with
      | [] => false
      | c :: rest => d == c && search pattern rest
  | .anySequence :: pattern, text => text.tails.any (search pattern)

section Search

variable {pattern : List LikeToken} {text : List Char}

theorem matches_iff_pieces :
    Matches pattern text ↔ ∃ pieces, List.Forall₂ Takes pattern pieces ∧ text = pieces.flatten := by
  constructor
  · intro h
    induction h with
    | nil => exact ⟨[], .nil, rfl⟩
    | anyChar c _ ih =>
        obtain ⟨pieces, htakes, rfl⟩ := ih
        exact ⟨[c] :: pieces, .cons ⟨c, rfl⟩ htakes, rfl⟩
    | literal c _ ih =>
        obtain ⟨pieces, htakes, rfl⟩ := ih
        exact ⟨[c] :: pieces, .cons rfl htakes, rfl⟩
    | anySequence run _ ih =>
        obtain ⟨pieces, htakes, rfl⟩ := ih
        exact ⟨run :: pieces, .cons trivial htakes, rfl⟩
  · rintro ⟨pieces, htakes, rfl⟩
    induction htakes with
    | nil => exact .nil
    | @cons token piece _ _ htoken _ ih =>
        cases token with
        | anySequence => exact .anySequence piece ih
        | anyChar => obtain ⟨c, rfl⟩ := htoken; exact .anyChar c ih
        | literal c => obtain rfl := htoken; exact .literal c ih

theorem search_iff : search pattern text = true ↔ Matches pattern text := by
  induction pattern generalizing text with
  | nil => simp [search]
  | cons token pattern ih =>
      cases token with
      | anySequence =>
          simp only [search, List.any_eq_true, List.mem_tails, ih, matches_anySequence_cons]
          constructor
          · rintro ⟨rest, ⟨run, rfl⟩, h⟩; exact ⟨run, rest, rfl, h⟩
          · rintro ⟨run, rest, rfl, h⟩; exact ⟨rest, ⟨run, rfl⟩, h⟩
      | anyChar => cases text <;> simp [search, matches_anyChar_cons, ih]
      | literal d =>
          cases text with
          | nil => simp [search, matches_literal_cons]
          | cons c rest =>
              simp only [search, Bool.and_eq_true, beq_iff_eq, ih, matches_literal_cons]
              constructor
              · rintro ⟨rfl, h⟩; exact ⟨rest, rfl, h⟩
              · rintro ⟨_, heq, h⟩
                obtain ⟨rfl, rfl⟩ := List.cons.inj heq
                exact ⟨rfl, h⟩

-- Remembering the last sequence finds what trying all of them finds.
theorem isMatch_eq_search (pattern : List LikeToken) (text : String) :
    isMatch pattern text = search pattern text.toList := by
  rw [Bool.eq_iff_iff, isMatch_iff, search_iff]

-- The first sequence takes more than it has to, so that the last one finds its literals.
example : isMatch (ofPattern none "%ab%ab".toList) "xxabyyab" = true := by
  rw [isMatch_eq_search]; decide

end Search

-- How far the matching has come: what is left of the pattern and of the text, and the last
-- sequence, if there was one.
structure Place where
  pattern : List LikeToken
  text : List Char
  last : Option (List LikeToken × List Char)

namespace Place

def start (pattern : List LikeToken) (text : List Char) : Place := ⟨pattern, text, none⟩

-- The last sequence takes one character more.
def retry : Option (List LikeToken × List Char) → Option Place
  | some (pattern, _ :: text) => some ⟨pattern, text, some (pattern, text)⟩
  | _ => none

-- One turn of the loop. There is none if the text is used up or nothing is left to be tried.
def turn : Place → Option Place
  | ⟨_, [], _⟩ => none
  | ⟨.anyChar :: pattern, _ :: text, last⟩ => some ⟨pattern, text, last⟩
  | ⟨.anySequence :: pattern, c :: text, _⟩ =>
      some ⟨pattern, c :: text, some (pattern, c :: text)⟩
  | ⟨.literal d :: pattern, c :: text, last⟩ =>
      if d = c then some ⟨pattern, text, last⟩ else retry last
  | ⟨[], _ :: _, last⟩ => retry last

-- The answer of the loop where it ends.
def answer (place : Place) : Bool :=
  place.text.isEmpty && place.pattern.all (· == .anySequence)

-- The loop comes from one place to another in so many turns.
inductive Turns : Nat → Place → Place → Prop
  | zero (place : Place) : Turns 0 place place
  | succ {count : Nat} {place next final : Place} (first : place.turn = some next)
      (others : Turns count next final) : Turns (count + 1) place final

section Turn

variable {place next final : Place} {count width : Nat}

theorem retry_eq_some {last : Option (List LikeToken × List Char)} (h : retry last = some next) :
    ∃ pattern c text, last = some (pattern, c :: text) ∧
      next = ⟨pattern, text, some (pattern, text)⟩ := by
  unfold retry at h
  split at h
  · exact ⟨_, _, _, rfl, (Option.some.inj h).symm⟩
  · cases h

-- What a turn can do: take a character, begin a sequence, or go back to the last one.
theorem turn_cases (h : place.turn = some next) :
    (∃ token c, place = ⟨token :: next.pattern, c :: next.text, next.last⟩) ∨
    (place.text ≠ [] ∧ place = ⟨.anySequence :: next.pattern, next.text, place.last⟩ ∧
      next.last = some (next.pattern, next.text)) ∨
    (∃ c, place.last = some (next.pattern, c :: next.text) ∧
      next.last = some (next.pattern, next.text)) := by
  obtain ⟨pattern, text, last⟩ := place
  cases text with
  | nil => cases h
  | cons c text =>
      have hretry (h : retry last = some next) :
          ∃ c, last = some (next.pattern, c :: next.text) ∧
            next.last = some (next.pattern, next.text) := by
        obtain ⟨pattern, d, rest, rfl, rfl⟩ := retry_eq_some h
        exact ⟨d, rfl, rfl⟩
      match pattern with
      | [] => exact .inr (.inr (hretry h))
      | .anyChar :: pattern =>
          obtain rfl := Option.some.inj h
          exact .inl ⟨_, _, rfl⟩
      | .anySequence :: pattern =>
          obtain rfl := Option.some.inj h
          exact .inr (.inl ⟨List.cons_ne_nil _ _, rfl, rfl⟩)
      | .literal d :: pattern =>
          by_cases hd : d = c
          · rw [turn, if_pos hd] at h
            obtain rfl := Option.some.inj h
            exact .inl ⟨_, _, rfl⟩
          · rw [turn, if_neg hd] at h
            exact .inr (.inr (hretry h))

-- The matching does what the loop does.
theorem matchFrom_eq (place : Place) :
    matchFrom place.pattern place.text place.last =
      match place.turn with
      | some next => matchFrom next.pattern next.text next.last
      | none => place.answer := by
  obtain ⟨pattern, text, last⟩ := place
  cases text with
  | nil => simp [matchFrom, turn, answer]
  | cons c text =>
      cases pattern with
      | nil => rcases last with _ | ⟨pattern, _ | ⟨d, rest⟩⟩ <;> simp [matchFrom, turn, retry, answer]
      | cons token pattern =>
          cases token with
          | anyChar => simp [matchFrom, turn]
          | anySequence => simp [matchFrom, turn]
          | literal d =>
              by_cases hd : d = c
              · subst hd
                conv_lhs => unfold matchFrom
                simp [turn]
              · rcases last with _ | ⟨pattern, _ | ⟨d', rest⟩⟩ <;>
                  simp [matchFrom, turn, retry, answer, hd]

theorem Turns.matchFrom_eq (h : Turns count place final) :
    matchFrom place.pattern place.text place.last =
      matchFrom final.pattern final.text final.last := by
  induction h with
  | zero => rfl
  | succ first _ ih => rw [Place.matchFrom_eq, first]; exact ih

-- The pattern and the text that are left are short, and so are those the matching can go back to.
structure Fits (width : Nat) (place : Place) : Prop where
  here : place.text.length + place.pattern.length < width
  back : ∀ pattern text, place.last = some (pattern, text) → text.length + pattern.length < width

-- How many characters the last sequence can still leave out. Before the first one it is more.
def ahead (place : Place) : Nat :=
  match place.last with
  | none => place.text.length + 1
  | some (_, reached) => max place.text.length reached.length

-- A bound for the turns that are left. Between two turns that lower `ahead`, each turn uses up a
-- character or a token.
def work (width : Nat) (place : Place) : Nat :=
  place.ahead * width + (place.text.length + place.pattern.length)

theorem work_lt_of_ahead (hnext : next.Fits width) (h : next.ahead < place.ahead) :
    next.work width < place.work width := by
  have hmul := Nat.mul_le_mul_right width h
  have hhere := hnext.here
  simp only [work, Nat.succ_mul] at *
  omega

theorem work_lt_of_used (hahead : next.ahead ≤ place.ahead)
    (h : next.text.length + next.pattern.length < place.text.length + place.pattern.length) :
    next.work width < place.work width :=
  Nat.add_lt_add_of_le_of_lt (Nat.mul_le_mul_right width hahead) h

theorem Fits.turn (hfits : place.Fits width) (h : place.turn = some next) :
    next.Fits width ∧ next.work width < place.work width := by
  obtain ⟨hhere, hback⟩ := hfits
  rcases turn_cases h with ⟨token, c, rfl⟩ | ⟨-, hplace, hlast⟩ | ⟨c, hplace, hlast⟩
  · simp only [List.length_cons] at hhere
    refine ⟨⟨by omega, hback⟩, work_lt_of_used ?_ (by simp only [List.length_cons]; omega)⟩
    unfold ahead
    dsimp only
    cases next.last <;> simp only [List.length_cons] <;> omega
  · have hpattern := congrArg (List.length ∘ Place.pattern) hplace
    have htext := congrArg (List.length ∘ Place.text) hplace
    simp only [Function.comp_apply, List.length_cons] at hpattern htext
    have hfits : next.Fits width := by
      refine ⟨by omega, fun pattern text heq => ?_⟩
      obtain ⟨rfl, rfl⟩ := Prod.mk.inj (Option.some.inj (hlast.symm.trans heq))
      omega
    refine ⟨hfits, work_lt_of_used ?_ (by omega)⟩
    simp only [ahead, hlast, htext]
    split <;> omega
  · have hreached := hback _ _ hplace
    simp only [List.length_cons] at hreached
    have hfits : next.Fits width := by
      refine ⟨by omega, fun pattern text heq => ?_⟩
      obtain ⟨rfl, rfl⟩ := Prod.mk.inj (Option.some.inj (hlast.symm.trans heq))
      omega
    refine ⟨hfits, work_lt_of_ahead hfits ?_⟩
    simp only [ahead, hlast, hplace, List.length_cons]
    omega

-- The loop ends.
theorem Fits.ends (hfits : place.Fits width) :
    ∃ count final, count ≤ place.work width ∧ Turns count place final ∧ final.turn = none := by
  induction hwork : place.work width using Nat.strong_induction_on generalizing place with
  | _ work ih =>
      cases hturn : place.turn with
      | none => exact ⟨0, place, Nat.zero_le _, .zero place, hturn⟩
      | some next =>
          obtain ⟨hnext, hlt⟩ := hfits.turn hturn
          obtain ⟨count, final, hle, hturns, hend⟩ := ih _ (hwork ▸ hlt) hnext rfl
          exact ⟨count + 1, final, by omega, .succ hturn hturns, hend⟩

end Turn

end Place

-- The loop of the matching ends after a number of turns that is bounded by the lengths of the
-- pattern and the text. Its answer says whether the text splits into pieces that the tokens take
-- one after the other, as full backtracking finds out.
theorem isMatch_splits (pattern : List LikeToken) (text : String) :
    (∃ turns final, turns ≤ (text.length + 2) * (text.length + pattern.length + 1) ∧
      Place.Turns turns (.start pattern text.toList) final ∧ final.turn = none ∧
        isMatch pattern text = final.answer) ∧
    (isMatch pattern text = true ↔
      ∃ pieces, List.Forall₂ Takes pattern pieces ∧ text.toList = pieces.flatten) ∧
    isMatch pattern text = search pattern text.toList := by
  refine ⟨?_, isMatch_iff.trans matches_iff_pieces, isMatch_eq_search pattern text⟩
  · have hlength : text.toList.length = text.length := String.length_toList
    have hfits : (Place.start pattern text.toList).Fits (text.length + pattern.length + 1) :=
      ⟨by simp [Place.start, hlength], by simp [Place.start]⟩
    obtain ⟨turns, final, hle, hturns, hend⟩ := hfits.ends
    refine ⟨turns, final, ?_, hturns, hend, ?_⟩
    · simp only [Place.work, Place.ahead, Place.start, hlength] at hle
      rw [Nat.succ_mul]
      omega
    · have hfinal := final.matchFrom_eq
      rw [hend] at hfinal
      exact hturns.matchFrom_eq.trans hfinal

end FilteredFeed.Clause.LikeToken
