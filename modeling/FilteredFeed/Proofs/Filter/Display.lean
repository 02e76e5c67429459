import FilteredFeed.Proofs.Filter.Grammar
import FilteredFeed.Proofs.Filter.Scan
import FilteredFeed.Proofs.Filter.Translation

namespace FilteredFeed.Filter

open FilteredFeed.Clause.Token (Ends ends_nil ends_space ends_closeParen numeral_not_blank)
open FilteredFeed.Feed FilteredFeed.Grammar FilteredFeed.Text

-- The tokens of the text of an expression.
def Value.token : Value → Token
  | .text s => .str s
  | .integer n => .int n
  | .bool b => .bool b
  | .null => .null

def Expr.tokens : Expr → List Token
  | .literal b => [.bool b]
  | .compare field op value => [.ident field.name, .compare op, value.token]
  | .and left right => .openParen :: (left.tokens ++ .and :: right.tokens) ++ [.closeParen]
  | .or left right => .openParen :: (left.tokens ++ .or :: right.tokens) ++ [.closeParen]
  | .not inner => .not :: inner.tokens
  | .contradiction => [.bool false]

-- The contradiction has no word of its own: this is the expression that says the same with `false`.
def Expr.spoken : Expr → Expr
  | .and left right => .and left.spoken right.spoken
  | .or left right => .or left.spoken right.spoken
  | .not inner => .not inner.spoken
  | .contradiction => .literal false
  | e => e

theorem Expr.height_spoken (e : Expr) : e.spoken.height = e.height := by
  induction e <;> simp_all [spoken, height]

theorem Expr.lower_spoken [Patterns] (e : Expr) (levels : Nat) : e.spoken.lower levels = e.lower levels := by
  induction levels generalizing e with
  | zero => rfl
  | succ levels ih =>
      cases e with
      | and left right => simp only [spoken, lower, ih]
      | or left right => simp only [spoken, lower, ih]
      | not inner => simp only [spoken, lower, ih]
      | _ => rfl

theorem Value.isConstant_token (value : Value) : IsConstant value.token value := by
  cases value <;> constructor

-- Each binary node and each negation opens one level, and no leaf does.
theorem Expr.derives_tokens (e : Expr) :
    ∃ n, n < e.height ∧ Derives .operand e.tokens e.spoken n := by
  induction e with
  | literal b => exact ⟨0, by simp [height], .literal b⟩
  | contradiction => exact ⟨0, by simp [height], .literal false⟩
  | compare field op value =>
      exact ⟨0, by simp [height], .compare op (names_name field) value.isConstant_token⟩
  | and left right ihl ihr =>
      obtain ⟨n, hn, hl⟩ := ihl
      obtain ⟨m, hm, hr⟩ := ihr
      exact ⟨max n m + 1, by simp only [height]; omega, (hl.operand.and hr).conjunction.parentheses⟩
  | or left right ihl ihr =>
      obtain ⟨n, hn, hl⟩ := ihl
      obtain ⟨m, hm, hr⟩ := ihr
      exact ⟨max n m + 1, by simp only [height]; omega,
        (hl.operand.conjunction.or hr.operand).parentheses⟩
  | not inner ih =>
      obtain ⟨n, hn, h⟩ := ih
      exact ⟨n + 1, by simp only [height]; omega, h.not⟩

section Scan

variable {rest : List Char}

theorem tokens?_name (field : Field) (rest : List Char) :
    Token.tokens? (field.name.toList ++ ' ' :: rest) =
      (Token.tokens? rest).map (.ident field.name :: ·) := by
  have hword : Token.ofWord field.name.toList = .ident field.name := by
    cases field <;> decide
  rw [Token.tokens?_word (isName_column field) ends_space, hword, Token.tokens?_space]

theorem tokens?_symbol (op : CompareOp) (rest : List Char) :
    Token.tokens? (op.symbol.toList ++ ' ' :: rest) = (Token.tokens? rest).map (.compare op :: ·) := by
  cases op with
  | relation rel =>
      cases rel <;> exact (Token.tokens?_cons (by decide) rfl).trans (by simp)
  | _ =>
      refine (Token.tokens?_word (by decide) ends_space).trans ?_
      rw [Token.tokens?_space]
      rfl

theorem tokens?_bool (b : Bool) (hr : Ends rest) :
    Token.tokens? ((toString b).toList ++ rest) = (Token.tokens? rest).map (.bool b :: ·) := by
  cases b <;> exact Token.tokens?_word (by decide) hr

theorem tokens?_value (value : Value) (hr : Ends rest) :
    Token.tokens? (value.render ++ rest) = (Token.tokens? rest).map (value.token :: ·) := by
  cases value with
  | text s =>
      have h := @Token.tokens?_text rest s
      simpa [Value.render, Value.token] using h
  | integer n => exact Token.tokens?_integer n hr
  | bool b => exact tokens?_bool b hr
  | null => exact Token.tokens?_word (by decide) hr

-- What a text begins and ends with, so that nothing is trimmed off and no sign before it changes.
def BeginsPlain (text : List Char) : Prop :=
  ∃ c rest, text = c :: rest ∧ ¬isBlank c = true ∧ c ≠ '='

def EndsPlain (text : List Char) : Prop :=
  ∃ front c, text = front ++ [c] ∧ ¬isBlank c = true

theorem BeginsPlain.append {text : List Char} (h : BeginsPlain text) (more : List Char) :
    BeginsPlain (text ++ more) := by
  obtain ⟨c, rest, rfl, hc⟩ := h
  exact ⟨c, rest ++ more, rfl, hc⟩

theorem EndsPlain.append {text : List Char} (h : EndsPlain text) (more : List Char) :
    EndsPlain (more ++ text) := by
  obtain ⟨front, c, rfl, hc⟩ := h
  exact ⟨more ++ front, c, (List.append_assoc ..).symm, hc⟩

theorem trim_eq {text : List Char} (hbegin : BeginsPlain text) (hend : EndsPlain text) :
    trim text = text := by
  obtain ⟨c, rest, hc, hblank, -⟩ := hbegin
  have hstart : trimStart text = text := by
    rw [trimStart, hc, List.dropWhile_cons_of_neg hblank]
  obtain ⟨front, d, hd, hblank⟩ := hend
  rw [trim, hstart, trimEnd, hd, List.reverse_append, List.reverse_singleton, List.singleton_append,
    List.dropWhile_cons_of_neg hblank]
  simp

theorem beginsPlain_render (e : Expr) : BeginsPlain e.render := by
  cases e with
  | literal b => cases b <;> exact ⟨_, _, rfl, by decide, by decide⟩
  | contradiction => exact ⟨_, _, rfl, by decide, by decide⟩
  | compare field op value =>
      have hname : BeginsPlain field.name.toList := by
        cases field <;> exact ⟨_, _, rfl, by decide, by decide⟩
      rw [Expr.render, List.append_assoc]
      exact hname.append _
  | _ => exact ⟨_, _, rfl, by decide, by decide⟩

theorem endsPlain_value (value : Value) : EndsPlain value.render := by
  cases value with
  | text s => exact ⟨_, '"', rfl, by decide⟩
  | integer n =>
      obtain ⟨c, digits, htext, hc, hdigits⟩ := Decimal.ofInt64_eq n
      rw [Value.render, htext]
      rcases List.eq_nil_or_concat digits with rfl | ⟨front, d, rfl⟩
      · exact ⟨[], c, rfl, numeral_not_blank hc⟩
      · exact ⟨c :: front, d, by simp, numeral_not_blank (.inr (List.all_eq_true.mp hdigits d (by simp)))⟩
  | bool b => exact ⟨(toString b).toList.dropLast, 'e', by cases b <;> decide, by decide⟩
  | null => exact ⟨['n', 'u', 'l'], 'l', rfl, by decide⟩

theorem endsPlain_render (e : Expr) : EndsPlain e.render := by
  induction e with
  | literal b => exact endsPlain_value (.bool b)
  | contradiction => exact endsPlain_value (.bool false)
  | compare field op value =>
      rw [Expr.render]
      exact ((endsPlain_value value).append [' ']).append _
  | and left right ihl ihr => exact ⟨_, ')', rfl, by decide⟩
  | or left right ihl ihr => exact ⟨_, ')', rfl, by decide⟩
  | not inner ih => exact ih.append ['!']

theorem tokens?_render (e : Expr) {rest : List Char} (hr : Ends rest) :
    Token.tokens? (e.render ++ rest) = (Token.tokens? rest).map (e.tokens ++ ·) := by
  induction e generalizing rest with
  | literal b => exact tokens?_bool b hr
  | contradiction => exact tokens?_bool false hr
  | compare field op value =>
      simp only [Expr.render, List.append_assoc, List.cons_append, tokens?_name, tokens?_symbol,
        tokens?_value value hr, Option.map_map]
      rfl
  | and left right ihl ihr =>
      simp [Expr.render, Expr.tokens, ihl, ihr, Token.tokens?_and, Function.comp_def]
  | or left right ihl ihr =>
      simp [Expr.render, Expr.tokens, ihl, ihr, Token.tokens?_or, Function.comp_def]
  | not inner ih =>
      have hhead : (inner.render ++ rest).head? ≠ some '=' := by
        obtain ⟨c, more, hc, -, hne⟩ := (beginsPlain_render inner).append rest
        simpa [hc] using hne
      rw [Expr.render, List.cons_append, Token.tokens?_not hhead, ih hr, Option.map_map]
      rfl

end Scan

theorem lex_text (e : Expr) : lex e.text = .ok e.tokens := by
  have hscan := tokens?_render e ends_nil
  rw [List.append_nil, Token.tokens?_nil, Option.map_some, List.append_nil, Token.tokens?] at hscan
  rw [lex, Expr.text, String.toList_ofList, trim_eq (beginsPlain_render e) (endsPlain_render e)]
  cases h : Token.scanFrom 0 e.render with
  | error cause => rw [h] at hscan; cases hscan
  | ok found => rw [h] at hscan; exact congrArg Except.ok (Option.some.inj hscan)

-- The text of an expression is read back as the expression, with `false` for each contradiction, if
-- the expression is not too high to be read at all. What it selects stays the same.
theorem parse_text_eq_spoken [Patterns] (e : Expr) :
    Expr.parse e.text =
        (if e.height ≤ maxDepth then .ok e.spoken else .error (.tooDeep maxDepth)) ∧
      e.spoken.compile.queryText = e.compile.queryText ∧
      ∀ item : Item, e.spoken.compile.accepts item = e.compile.accepts item := by
  obtain ⟨n, hn, h⟩ := e.derives_tokens
  have hderives := h.operand.conjunction
  have hcompile : e.spoken.compile = e.compile := by
    simp only [Expr.compile, Expr.lower_spoken]
  refine ⟨?_, congrArg _ hcompile, fun item => congrArg (·.accepts item) hcompile⟩
  rw [parse_of_lex (lex_text e) hderives.ne_nil, ofTokens_of_derives hderives, Expr.height_spoken]
  by_cases hheight : e.height ≤ maxDepth
  · rw [if_pos ⟨by omega, hheight⟩, if_pos hheight]
  · rw [if_neg (by omega), if_neg hheight]

end FilteredFeed.Filter
