/-
Places in a text, counted in bytes.

A text is a list of characters, but some places in it are counted in the bytes of its
UTF-8 encoding. A place inside a character is no place to cut at.
-/

set_option autoImplicit false

namespace Fibonacci.Text

/-- The number of bytes of a text. -/
def byteCount : List Char → Nat
  | [] => 0
  | c :: rest => c.utf8Size + byteCount rest

/-- The text without its first bytes. -/
def dropBytes : Nat → List Char → Option (List Char)
  | 0, text => some text
  | _ + 1, [] => none
  | n + 1, c :: rest => if c.utf8Size ≤ n + 1 then dropBytes (n + 1 - c.utf8Size) rest else none

/-- The first bytes of a text. -/
def takeBytes : Nat → List Char → Option (List Char)
  | 0, _ => some []
  | _ + 1, [] => none
  | n + 1, c :: rest =>
    if c.utf8Size ≤ n + 1 then (takeBytes (n + 1 - c.utf8Size) rest).map (c :: ·) else none

/-- The piece of a text between two places. -/
def cutBytes (start stop : Nat) (text : List Char) : Option (List Char) :=
  (dropBytes start text).bind (takeBytes (stop - start))

@[simp] theorem byteCount_nil : byteCount [] = 0 := rfl

@[simp] theorem byteCount_cons (c : Char) (text : List Char) :
    byteCount (c :: text) = c.utf8Size + byteCount text := rfl

theorem byteCount_append (front back : List Char) :
    byteCount (front ++ back) = byteCount front + byteCount back := by
  induction front with
  | nil => rw [List.nil_append, byteCount_nil, Nat.zero_add]
  | cons c front ih => rw [List.cons_append, byteCount_cons, byteCount_cons, ih, Nat.add_assoc]

@[simp] theorem dropBytes_zero (text : List Char) : dropBytes 0 text = some text := by
  unfold dropBytes
  rfl

/-- The end of a stretch of characters is a place to cut at. -/
theorem dropBytes_append (front back : List Char) :
    dropBytes (byteCount front) (front ++ back) = some back := by
  induction front with
  | nil => exact dropBytes_zero back
  | cons c front ih =>
    obtain ⟨before, hsize⟩ : ∃ before, c.utf8Size + byteCount front = before + 1 :=
      Nat.exists_eq_add_one.mpr (Nat.add_pos_left c.utf8Size_pos _)
    have hfits : c.utf8Size ≤ before + 1 := by omega
    have hrest : before + 1 - c.utf8Size = byteCount front := by omega
    rw [byteCount_cons, hsize, List.cons_append, dropBytes, if_pos hfits, hrest]
    exact ih

end Fibonacci.Text
