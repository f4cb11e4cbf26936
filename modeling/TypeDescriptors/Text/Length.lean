set_option autoImplicit false

/-!
# Texts measured in UTF-8 bytes

Offsets and lengths are counted in the bytes of the UTF-8 form, while texts are lists of
characters. A cut of a text is therefore always a cut between two characters, and its offset is the
length of what stands before it (`byteLength_append`, `dropBytes_append`).
-/
namespace TypeDescriptors.Text

def byteLength : List Char → Nat
  | [] => 0
  | c :: cs => c.utf8Size + byteLength cs

@[simp] theorem byteLength_nil : byteLength [] = 0 := rfl

@[simp] theorem byteLength_cons (c : Char) (cs : List Char) :
    byteLength (c :: cs) = c.utf8Size + byteLength cs := rfl

@[simp] theorem byteLength_append (xs ys : List Char) :
    byteLength (xs ++ ys) = byteLength xs + byteLength ys := by
  induction xs with
  | nil => simp
  | cons c cs ih => rw [List.cons_append, byteLength_cons, byteLength_cons, ih, Nat.add_assoc]

theorem byteLength_le_of_suffix {xs ys : List Char} (h : xs <:+ ys) :
    byteLength xs ≤ byteLength ys := by
  obtain ⟨front, rfl⟩ := h
  rw [byteLength_append]
  exact Nat.le_add_left _ _

theorem eq_nil_of_byteLength_eq_zero {cs : List Char} (h : byteLength cs = 0) : cs = [] := by
  cases cs with
  | nil => rfl
  | cons c cs =>
    have pos := Char.utf8Size_pos c
    rw [byteLength_cons] at h
    omega

theorem size_utf8Encode (cs : List Char) : cs.utf8Encode.size = byteLength cs := by
  induction cs with
  | nil => rfl
  | cons c cs ih =>
    rw [List.utf8Encode_cons, ByteArray.size_append, ih, List.utf8Encode_singleton, byteLength_cons]
    simp

theorem byteLength_toList (text : String) : byteLength text.toList = text.utf8ByteSize := by
  rw [← size_utf8Encode, String.utf8Encode_toList]
  rfl

theorem isValid_byteLength {text : String} {before behind : List Char}
    (split : text.toList = before ++ behind) :
    String.Pos.Raw.IsValid text ⟨byteLength before⟩ := by
  apply String.Pos.Raw.isValid_iff_exists_append.2
  refine ⟨String.ofList before, String.ofList behind, ?_, ?_⟩
  · rw [← String.ofList_append, ← split, String.ofList_toList]
  · rw [← String.toList_ofList (l := before), byteLength_toList, String.toList_ofList]
    rfl

/-- The text without its first `n` bytes; a character that holds the `n`-th byte goes whole. -/
def dropBytes : Nat → List Char → List Char
  | 0, cs => cs
  | _ + 1, [] => []
  | n + 1, c :: cs => dropBytes (n + 1 - c.utf8Size) cs

@[simp] theorem dropBytes_zero (cs : List Char) : dropBytes 0 cs = cs := by
  cases cs <;> rfl

@[simp] theorem dropBytes_append (xs ys : List Char) :
    dropBytes (byteLength xs) (xs ++ ys) = ys := by
  induction xs with
  | nil => simp
  | cons c cs ih =>
    have h := Char.utf8Size_pos c
    obtain ⟨n, hn⟩ : ∃ n, byteLength (c :: cs) = n + 1 := ⟨byteLength (c :: cs) - 1, by simp; omega⟩
    rw [hn, List.cons_append, dropBytes, ← hn]
    simpa using ih

theorem ne_mark_of_notMem {mark : Char} {cs : List Char} (h : mark ∉ cs) :
    ∀ c ∈ cs, (c != mark) = true := by
  intro c mem
  simp only [bne_iff_ne]
  rintro rfl
  exact h mem

theorem ne_mark_of_notMem_reverse {mark : Char} {cs : List Char} (h : mark ∉ cs) :
    ∀ c ∈ cs.reverse, (c != mark) = true :=
  ne_mark_of_notMem (mt List.mem_reverse.1 h)

def afterLast (mark : Char) (cs : List Char) : List Char :=
  (cs.reverse.takeWhile fun c => c != mark).reverse

theorem afterLast_of_notMem {mark : Char} {cs : List Char} (h : mark ∉ cs) :
    afterLast mark cs = cs := by
  rw [afterLast, ← List.append_nil cs.reverse,
    List.takeWhile_append_of_pos (ne_mark_of_notMem_reverse h)]
  simp

theorem afterLast_append_cons {mark : Char} (xs : List Char) {ys : List Char} (h : mark ∉ ys) :
    afterLast mark (xs ++ mark :: ys) = ys := by
  simp [afterLast, List.takeWhile_append_of_pos (ne_mark_of_notMem_reverse h)]

theorem notMem_afterLast (mark : Char) (cs : List Char) : mark ∉ afterLast mark cs := by
  intro mem
  have kept := List.all_eq_true.1 (List.all_takeWhile (l := cs.reverse)) _ (List.mem_reverse.1 mem)
  simp at kept

theorem exists_last_of_mem {mark : Char} {cs : List Char} (h : mark ∈ cs) :
    ∃ xs ys, cs = xs ++ mark :: ys ∧ mark ∉ ys := by
  obtain ⟨ys, xs, split, absent⟩ := List.eq_append_cons_of_mem (List.mem_reverse.2 h)
  refine ⟨xs.reverse, ys.reverse, ?_, fun mem => absent (List.mem_reverse.1 mem)⟩
  rw [← cs.reverse_reverse, split]
  simp

def beforeLast (mark : Char) (cs : List Char) : List Char :=
  ((cs.reverse.dropWhile fun c => c != mark).drop 1).reverse

end TypeDescriptors.Text
