namespace FilteredFeed.Text

-- A set of characters is kept as closed ranges of code points.
-- The set operations return ranges in ascending order that do not touch.
structure CharSet where
  ranges : List (Nat × Nat)
deriving Repr, DecidableEq, Inhabited

namespace CharSet

def maxCode : Nat := 0x10FFFF

def empty : CharSet := ⟨[]⟩

def all : CharSet := ⟨[(0, maxCode)]⟩

def range (lo hi : Nat) : CharSet := ⟨[(lo, hi)]⟩

def singleton (c : Char) : CharSet := range c.toNat c.toNat

def containsCode (s : CharSet) (code : Nat) : Bool :=
  s.ranges.any fun (lo, hi) => decide (lo ≤ code) && decide (code ≤ hi)

def contains (s : CharSet) (c : Char) : Bool := s.containsCode c.toNat

-- Joins a range with those after it that touch or overlap it, in a list sorted by lower end.
def joinFrom (lo hi : Nat) : List (Nat × Nat) → List (Nat × Nat)
  | [] => [(lo, hi)]
  | (lo', hi') :: rest =>
      if lo' ≤ hi + 1 then joinFrom lo (max hi hi') rest else (lo, hi) :: joinFrom lo' hi' rest

def joinSorted : List (Nat × Nat) → List (Nat × Nat)
  | [] => []
  | (lo, hi) :: rest => joinFrom lo hi rest

def sorted (ranges : List (Nat × Nat)) : List (Nat × Nat) :=
  ranges.mergeSort fun a b => decide (a.1 ≤ b.1)

def ofRanges (ranges : List (Nat × Nat)) : CharSet := ⟨joinSorted (sorted ranges)⟩

def ofChars (chars : List Char) : CharSet := ofRanges (chars.map fun c => (c.toNat, c.toNat))

def union (s t : CharSet) : CharSet := ofRanges (s.ranges ++ t.ranges)

def unions (sets : List CharSet) : CharSet := ofRanges (sets.flatMap CharSet.ranges)

-- What a list of ranges that is sorted by lower end leaves out, from `start` on.
def gapsFrom (start : Nat) : List (Nat × Nat) → List (Nat × Nat)
  | [] => if start ≤ maxCode then [(start, maxCode)] else []
  | (lo, hi) :: rest =>
      let after := gapsFrom (max start (hi + 1)) rest
      if start < lo then (start, lo - 1) :: after else after

def compl (s : CharSet) : CharSet := ⟨gapsFrom 0 (sorted s.ranges)⟩

def inter (s t : CharSet) : CharSet := (s.compl.union t.compl).compl

def diff (s t : CharSet) : CharSet := (s.compl.union t).compl

def symmDiff (s t : CharSet) : CharSet := (s.diff t).union (t.diff s)

theorem containsCode_iff (ranges : List (Nat × Nat)) (code : Nat) :
    (⟨ranges⟩ : CharSet).containsCode code = true ↔
      ∃ r ∈ ranges, r.1 ≤ code ∧ code ≤ r.2 := by
  simp [containsCode]

theorem exists_range_cons {r : Nat × Nat} {rest : List (Nat × Nat)} {p : Nat × Nat → Prop} :
    (∃ r' ∈ r :: rest, p r') ↔ p r ∨ ∃ r' ∈ rest, p r' := by
  simp

theorem mem_sorted (ranges : List (Nat × Nat)) (r : Nat × Nat) :
    r ∈ sorted ranges ↔ r ∈ ranges := by
  simp [sorted]

theorem pairwise_sorted (ranges : List (Nat × Nat)) :
    (sorted ranges).Pairwise fun a b => a.1 ≤ b.1 := by
  have h : (sorted ranges).Pairwise fun a b => decide (a.1 ≤ b.1) = true :=
    List.pairwise_mergeSort
      (fun a b c hab hbc => by simp only [decide_eq_true_eq] at *; omega)
      (fun a b => by simp only [Bool.or_eq_true, decide_eq_true_eq]; omega) ranges
  simpa using h

theorem containsCode_joinFrom {lo : Nat} (hi code : Nat) {rest : List (Nat × Nat)}
    (hlo : ∀ r ∈ rest, lo ≤ r.1) (hsorted : rest.Pairwise fun a b => a.1 ≤ b.1) :
    (⟨joinFrom lo hi rest⟩ : CharSet).containsCode code = true ↔
      (lo ≤ code ∧ code ≤ hi) ∨ ∃ r ∈ rest, r.1 ≤ code ∧ code ≤ r.2 := by
  induction rest generalizing lo hi with
  | nil => simp [joinFrom, containsCode_iff]
  | cons r rest ih =>
      obtain ⟨hr, hrest⟩ := List.pairwise_cons.mp hsorted
      have hle : lo ≤ r.1 := hlo r List.mem_cons_self
      simp only [joinFrom, exists_range_cons]
      split
      · -- the two ranges leave nothing out between them
        rw [ih _ (fun r' h => hlo r' (List.mem_cons_of_mem _ h)) hrest, ← or_assoc]
        exact or_congr_left (by omega)
      · have := ih r.2 hr hrest
        simp only [containsCode_iff, exists_range_cons] at this ⊢
        rw [this]

theorem containsCode_ofRanges (ranges : List (Nat × Nat)) (code : Nat) :
    (ofRanges ranges).containsCode code = true ↔ ∃ r ∈ ranges, r.1 ≤ code ∧ code ≤ r.2 := by
  have hsorted := pairwise_sorted ranges
  simp only [← mem_sorted ranges, ofRanges]
  cases hs : sorted ranges with
  | nil => simp [joinSorted, containsCode]
  | cons r rest =>
      obtain ⟨hr, hrest⟩ := List.pairwise_cons.mp (hs ▸ hsorted)
      simp only [joinSorted, containsCode_joinFrom _ _ hr hrest, exists_range_cons]

theorem containsCode_gapsFrom (start : Nat) {code : Nat} {ranges : List (Nat × Nat)}
    (hcode : code ≤ maxCode) (hsorted : ranges.Pairwise fun a b => a.1 ≤ b.1) :
    (⟨gapsFrom start ranges⟩ : CharSet).containsCode code = true ↔
      start ≤ code ∧ ∀ r ∈ ranges, ¬(r.1 ≤ code ∧ code ≤ r.2) := by
  induction ranges generalizing start with
  | nil =>
      simp only [gapsFrom, containsCode_iff]
      split <;> simp <;> omega
  | cons r rest ih =>
      obtain ⟨hr, hrest⟩ := List.pairwise_cons.mp hsorted
      have ih := ih (max start (r.2 + 1)) hrest
      simp only [gapsFrom, containsCode_iff, List.forall_mem_cons] at ih ⊢
      split
      · rw [exists_range_cons, ih]
        constructor
        · rintro (h | ⟨h, hall⟩)
          · refine ⟨h.1, by omega, fun r' hr' => ?_⟩
            have := hr r' hr'
            omega
          · exact ⟨by omega, by omega, hall⟩
        · rintro ⟨h, hnot, hall⟩
          by_cases hlt : code < r.1
          · exact .inl ⟨h, by omega⟩
          · exact .inr ⟨by omega, hall⟩
      · rw [ih]
        constructor
        · rintro ⟨h, hall⟩
          exact ⟨by omega, by omega, hall⟩
        · rintro ⟨h, hnot, hall⟩
          exact ⟨by omega, hall⟩

theorem toNat_le_maxCode (c : Char) : c.toNat ≤ maxCode := by
  have h : c.toNat.isValidChar := c.valid
  simp only [Nat.isValidChar] at h
  simp only [maxCode]
  omega

@[simp] theorem contains_union (s t : CharSet) (c : Char) :
    (s.union t).contains c = (s.contains c || t.contains c) := by
  rw [Bool.eq_iff_iff]
  simp only [contains, union, containsCode_ofRanges, List.mem_append, or_and_right, exists_or,
    Bool.or_eq_true]
  exact or_congr (containsCode_iff _ _).symm (containsCode_iff _ _).symm

@[simp] theorem contains_compl (s : CharSet) (c : Char) :
    s.compl.contains c = !s.contains c := by
  rw [Bool.eq_iff_iff]
  have h := containsCode_iff s.ranges c.toNat
  simp only [contains, compl, containsCode_gapsFrom 0 (toNat_le_maxCode c) (pairwise_sorted _),
    mem_sorted, Bool.not_eq_true', ← Bool.not_eq_true, Nat.zero_le, true_and, h]
  simp only [not_exists, not_and]

@[simp] theorem contains_inter (s t : CharSet) (c : Char) :
    (s.inter t).contains c = (s.contains c && t.contains c) := by
  simp [inter]

@[simp] theorem contains_diff (s t : CharSet) (c : Char) :
    (s.diff t).contains c = (s.contains c && !t.contains c) := by
  simp [diff]

@[simp] theorem contains_symmDiff (s t : CharSet) (c : Char) :
    (s.symmDiff t).contains c = (s.contains c != t.contains c) := by
  simp only [symmDiff, contains_union, contains_diff]
  cases s.contains c <;> cases t.contains c <;> rfl

def hexCode (digits : List Char) : Nat :=
  digits.foldl (fun code c =>
    16 * code + if c.isDigit then c.toNat - '0'.toNat else c.toNat - 'a'.toNat + 10) 0

-- A range is written with a dash, a single code point alone.
def rangeOf (word : List Char) : Nat × Nat :=
  let lower := hexCode (word.takeWhile (· != '-'))
  match word.dropWhile (· != '-') with
  | _ :: upper => (lower, hexCode upper)
  | [] => (lower, lower)

-- Reads a table of ranges with hexadecimal ends and blanks between them.
def ofTable (table : String) : CharSet :=
  let words := table.toList.splitBy fun a b => a.isWhitespace == b.isWhitespace
  ⟨(words.filter fun word => word.head?.any fun c => !c.isWhitespace).map rangeOf⟩

end CharSet

end FilteredFeed.Text
