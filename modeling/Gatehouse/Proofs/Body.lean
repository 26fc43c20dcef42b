import Gatehouse.Http.Framing

namespace Gatehouse

def chunksSize : List ByteArray → Nat
  | [] => 0
  | chunk :: rest => chunk.size + chunksSize rest

theorem chunksSize_cons (chunk : ByteArray) (rest : List ByteArray) :
    chunksSize (chunk :: rest) = chunk.size + chunksSize rest := rfl

theorem fittingChunks_of_le {room : Nat} {chunks : List ByteArray} (h : chunksSize chunks ≤ room) :
    fittingChunks room chunks = (chunks, true) := by
  induction chunks generalizing room with
  | nil => rfl
  | cons chunk rest ih =>
    rw [chunksSize_cons] at h
    unfold fittingChunks
    rw [if_pos (by omega), ih (by omega)]

theorem fittingChunks_of_lt {room : Nat} {chunks : List ByteArray} (h : room < chunksSize chunks) :
    (fittingChunks room chunks).2 = false := by
  induction chunks generalizing room with
  | nil => simp [chunksSize] at h
  | cons chunk rest ih =>
    rw [chunksSize_cons] at h
    unfold fittingChunks
    split
    next hc => exact ih (by omega)
    next => rfl

namespace Body

variable {b : Body} {limit : Nat}

theorem size_bytes (b : Body) : b.bytes.size = chunksSize b.chunks := by
  have go (acc : ByteArray) (chunks : List ByteArray) :
      (chunks.foldl (· ++ ·) acc).size = acc.size + chunksSize chunks := by
    induction chunks generalizing acc with
    | nil => rfl
    | cons chunk rest ih =>
      rw [List.foldl_cons, ih, ByteArray.size_append, chunksSize_cons, Nat.add_assoc]
  rw [bytes, go, ByteArray.size_empty, Nat.zero_add]

theorem cap_of_le (h : b.bytes.size ≤ limit) :
    (b.cap limit).chunks = b.chunks ∧ (b.cap limit).ending = b.ending := by
  rw [size_bytes] at h
  simp [cap, fittingChunks_of_le h]

theorem cap_of_lt (h : limit < b.bytes.size) : (b.cap limit).ending = .overLimit := by
  rw [size_bytes] at h
  simp [cap, fittingChunks_of_lt h]

theorem bytes_cap_of_le (h : b.bytes.size ≤ limit) : (b.cap limit).bytes = b.bytes := by
  unfold bytes
  rw [(cap_of_le h).1]

theorem collect_of_lt (h : limit < b.bytes.size) : b.collect limit = .error .overLimit := by
  unfold collect
  dsimp only
  rw [cap_of_lt h]

/-- What comes of reading a body that fits depends on how it ends. -/
theorem collect_of_le (h : b.bytes.size ≤ limit) :
    b.collect limit = match b.ending with
      | .complete => .ok b.bytes
      | .brokenOff => .error .brokenOff
      | .stalled => .error .stalled
      | .overLimit => .error .overLimit := by
  have hending := (cap_of_le h).2
  have hbytes := bytes_cap_of_le h
  unfold collect
  dsimp only
  cases he : b.ending <;> simp only [hending, hbytes, he]

/-- Reading a body to its end succeeds exactly when it has one and fits. -/
theorem collect_eq_ok_iff {octets : ByteArray} : b.collect limit = .ok octets ↔
    b.ending = .complete ∧ b.bytes.size ≤ limit ∧ b.bytes = octets := by
  by_cases h : b.bytes.size ≤ limit
  · rw [collect_of_le h]
    cases b.ending <;> simp [h]
  · rw [collect_of_lt (Nat.lt_of_not_le h)]
    simp [h]

/-- Whether more has come than may be read, be it under this limit or under one before it. -/
def Exceeds (b : Body) (limit : Nat) : Prop := limit < b.bytes.size ∨ b.ending = .overLimit

instance (b : Body) (limit : Nat) : Decidable (b.Exceeds limit) :=
  inferInstanceAs (Decidable (_ ∨ _))

/-- What keeps a body from being read to its end under a limit. -/
def Suffers (b : Body) (limit : Nat) : ReadFault → Prop
  | .overLimit => b.Exceeds limit
  | .brokenOff => ¬b.Exceeds limit ∧ b.ending = .brokenOff
  | .stalled => ¬b.Exceeds limit ∧ b.ending = .stalled

/-- That a body is too long is told before anything else that is wrong with it. -/
theorem collect_eq_error_iff {fault : ReadFault} :
    b.collect limit = .error fault ↔ b.Suffers limit fault := by
  by_cases h : b.bytes.size ≤ limit
  · have hlt : ¬limit < b.bytes.size := Nat.not_lt.mpr h
    rw [collect_of_le h]
    cases hending : b.ending <;> cases fault <;> simp [Suffers, Exceeds, hending, hlt]
  · rw [collect_of_lt (Nat.lt_of_not_le h)]
    cases fault <;> simp [Suffers, Exceeds, Nat.lt_of_not_le h]

theorem collect_of_overLimit (h : b.ending = .overLimit) : b.collect limit = .error .overLimit :=
  collect_eq_error_iff.mpr (Or.inr h)

/-- Of a body that has an end, too much can be the only trouble. -/
theorem collect_of_complete (h : b.ending = .complete) :
    b.collect limit = if b.bytes.size ≤ limit then .ok b.bytes else .error .overLimit := by
  split
  next hl => exact collect_eq_ok_iff.mpr ⟨h, hl, rfl⟩
  next hl => exact collect_of_lt (Nat.lt_of_not_le hl)

/-- Cutting a body that has an end off does not make it stall. -/
theorem collect_cap_ne_stalled (h : b.ending = .complete) (room : Nat) :
    (b.cap room).collect limit ≠ .error .stalled := by
  by_cases hr : b.bytes.size ≤ room
  · rw [collect_of_complete ((cap_of_le hr).2.trans h)]
    split <;> simp
  · rw [collect_of_overLimit (cap_of_lt (Nat.lt_of_not_le hr))]
    simp

end Body

/-- How the sending of a request ends depends on no fields but those that frame it. -/
theorem Transmission.ending_ofRequest_congr {h other : Headers}
    (hlength : other.all .contentLength = h.all .contentLength)
    (hcoding : other.contains .transferEncoding = h.contains .transferEncoding) (m : Method)
    (b : Body) : (ofRequest m other b).ending = (ofRequest m h b).ending := by
  have hwithin (length : Nat) (h other : Headers) :
      (b.sentWithin length other).ending = (b.sentWithin length h).ending := by
    unfold Body.sentWithin
    split
    · rfl
    · split <;> rfl
  have hagreed : other.agreedLength? = h.agreedLength? := by
    unfold Headers.agreedLength?
    rw [hlength]
  unfold ofRequest
  rw [hcoding, hagreed]
  split
  · rfl
  split
  · rfl
  split
  · exact hwithin _ _ _
  · exact hwithin _ _ _
  · split <;> rfl

/-- A request exceeds a limit on the way only if its body was cut off before. -/
theorem Transmission.ending_ofRequest {m : Method} {h : Headers} {b : Body}
    (hb : b.ending ≠ .overLimit) : (Transmission.ofRequest m h b).ending ≠ .overLimit := by
  have hwithin (length : Nat) (h : Headers) : (b.sentWithin length h).ending ≠ .overLimit := by
    unfold Body.sentWithin
    split
    · simp
    · split
      · simp
      · exact hb
  unfold Transmission.ofRequest
  split
  · simp
  split
  · exact hb
  split
  · exact hwithin _ _
  · exact hwithin _ _
  · split
    · exact hb
    · simp

end Gatehouse
