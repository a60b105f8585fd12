import ClusterBundle.Json.Cursor

/-!
What a reader makes of the bytes before it.

`Reads reader before a after` says that a reader makes `a` of the front of some bytes and leaves
the others, wherever in a document they stand. A reader is put together from others by a bind, so
the rule for a bind and one for each reader that looks at bytes itself carry through all of them.
-/

namespace ClusterBundle.Json.Reader

variable {α β : Type} {reader : Reader α} {a : α} {b : β} {before middle after rest bytes : Bytes}
  {head : UInt8}

/-- A reader makes `a` of the bytes before it and comes to stand before those that are left. -/
def Reads (reader : Reader α) (before : Bytes) (a : α) (after : Bytes) : Prop :=
  ∀ index, ∃ further, reader.run ⟨before, index⟩ = .ok (a, ⟨after, further⟩)

namespace Reads

theorem pure (a : α) (bytes : Bytes) : Reads (Pure.pure a) bytes a bytes :=
  fun index => ⟨index, rfl⟩

theorem bind {next : α → Reader β} (hfirst : Reads reader before a middle)
    (hnext : Reads (next a) middle b after) : Reads (reader >>= next) before b after := by
  intro index
  obtain ⟨between, hfirst⟩ := hfirst index
  obtain ⟨further, hnext⟩ := hnext between
  exact ⟨further, by rw [StateT.run_bind, hfirst]; exact hnext⟩

theorem get_bind {next : Cursor → Reader β}
    (h : ∀ index, Reads (next ⟨before, index⟩) before b after) :
    Reads (get >>= next) before b after := fun index => h index index

end Reads

/-! ### Looking at bytes and passing over them -/

@[simp] theorem byte_inj {c d : Char} (hc : c.toNat < 128) (hd : d.toNat < 128) :
    byte c = byte d ↔ c = d := by
  rw [← UInt8.toNat_inj, ← Char.toNat_inj]
  simp only [byte, UInt8.toNat_ofNat']
  omega

theorem reads_peek : Reads peek bytes bytes.head? bytes := fun index => ⟨index, rfl⟩

theorem reads_left : Reads left bytes bytes.length bytes := fun index => ⟨index, rfl⟩

theorem reads_skip : Reads skip (head :: rest) () rest := fun index => ⟨index + _, rfl⟩

theorem reads_next : Reads next (head :: rest) (some head) rest :=
  reads_peek.bind (reads_skip.bind (.pure _ _))

theorem reads_skipWhile (accepts : UInt8 → Bool) (bytes : Bytes) :
    Reads (skipWhile accepts) bytes () (bytes.dropWhile accepts) := fun index => ⟨index + _, rfl⟩

theorem reads_word (letters : List UInt8) : Reads (word letters) (letters ++ rest) () rest := by
  induction letters with
  | nil => exact .pure _ _
  | cons letter letters ih =>
      refine reads_next.bind ?_
      simpa using ih

/-! ### White space -/

/-- Bytes that a reader passes over before a token. -/
def IsBlank (bytes : Bytes) : Prop := ∀ b ∈ bytes, isSpace b = true

theorem IsBlank.nil : IsBlank [] := by simp [IsBlank]

theorem dropWhile_blank {blank : Bytes} (h : IsBlank blank) (hhead : isSpace head = false) :
    (blank ++ head :: rest).dropWhile isSpace = head :: rest := by
  rw [List.dropWhile_append_of_pos h, List.dropWhile_cons_of_neg (by simp [hhead])]

theorem reads_peekToken {blank : Bytes} (h : IsBlank blank) (hhead : isSpace head = false) :
    Reads peekToken (blank ++ head :: rest) (some head) (head :: rest) := by
  have hskip := reads_skipWhile isSpace (blank ++ head :: rest)
  rw [dropWhile_blank h hhead] at hskip
  exact hskip.bind reads_peek

theorem reads_peekToken_end : Reads peekToken [] none [] :=
  (reads_skipWhile isSpace []).bind reads_peek

end ClusterBundle.Json.Reader
