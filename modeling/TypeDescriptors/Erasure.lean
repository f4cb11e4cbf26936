set_option autoImplicit false

/-!
# Erasure of type arguments

The body of a class signature may hold blocks of type arguments between `<` and `>`, nested to any
depth. Erasure drops the blocks. After the first block a dot opens an inner class and becomes the
`$` of its binary name: `a/Outer<TT;>.Inner` becomes `a/Outer$Inner`.
-/
namespace TypeDescriptors.Erasure

/-- Erases from inside `depth` blocks; `closed` tells whether an outermost block has ended. A `>`
outside every block is dropped. -/
def scan : Nat → Bool → List Char → List Char
  | _, _, [] => []
  | depth, closed, c :: cs =>
    if c = '<' then scan (depth + 1) closed cs
    else if c = '>' then scan (depth - 1) (closed || decide (depth - 1 = 0)) cs
    else if depth = 0 then
      (if c = '.' && closed then '$' else c) :: scan depth closed cs
    else scan depth closed cs

/-- Erases a body. One without any `<` has nothing to erase and stays as it is. -/
def erase (body : List Char) : List Char :=
  if '<' ∈ body then scan 0 false body else body

theorem scan_of_plain {cs : List Char} (opening : '<' ∉ cs) (closing : '>' ∉ cs) :
    scan 0 false cs = cs := by
  induction cs with
  | nil => rfl
  | cons c cs ih =>
    simp only [List.mem_cons, not_or] at opening closing
    simp [scan, Ne.symm opening.1, Ne.symm closing.1, ih opening.2 closing.2]

theorem erase_eq_scan {body : List Char} (h : '<' ∉ body → '>' ∉ body) :
    erase body = scan 0 false body := by
  unfold erase
  split
  · rfl
  · rename_i opening
    exact (scan_of_plain opening (h opening)).symm

theorem bracket_notMem_scan (depth : Nat) (closed : Bool) (cs : List Char) :
    '<' ∉ scan depth closed cs ∧ '>' ∉ scan depth closed cs := by
  fun_induction scan depth closed cs with
  | case1 => simp
  | case2 _ _ _ ih => exact ih
  | case3 _ _ _ _ ih => exact ih
  | case4 closed c cs opening closing ih =>
    split <;> simp_all [Ne.symm opening, Ne.symm closing]
  | case5 _ _ _ _ _ _ _ ih => exact ih

end TypeDescriptors.Erasure
