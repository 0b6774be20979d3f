import Mathlib.Algebra.Group.Nat.Defs
import Mathlib.Data.List.TakeDrop
import Mathlib.Data.List.Basic

/-!
# Frames on a byte stream

The backend and the AI services talk in frames: four bytes that say how long the body is,
most significant first, and the body.  A stream hands its bytes over in reads of any size,
and may end at every byte.  Reading gives back what was written, up to the last frame that
is whole.
-/

namespace Hezarfen.Ai

abbrev Bytes := List UInt8

def aiMaxFrameBytes : ℕ := 8 * 1024 * 1024

inductive IoErrorKind where
  | unexpectedEof
  | other (text : String)
  deriving DecidableEq

inductive Ending where
  | fin
  | error (kind : IoErrorKind)

/-- The receiving end of a stream. -/
structure Reader where
  unread : Bytes
  ending : Ending
  /-- How many bytes the transport has ready for each read, in the order of the reads. -/
  ready : ℕ → ℕ
  reads : ℕ

/-- `AsyncRead::read` into a buffer of `want` bytes: at least one byte as long as there is
one, and none at the end of the stream. -/
def Reader.read (r : Reader) (want : ℕ) : Except IoErrorKind Bytes × Reader :=
  match r.unread, r.ending with
  | [], .fin => (.ok [], { r with reads := r.reads + 1 })
  | [], .error kind => (.error kind, { r with reads := r.reads + 1 })
  | byte :: rest, _ =>
      let n := max 1 (min (r.ready r.reads) want)
      (.ok ((byte :: rest).take n),
        { r with unread := (byte :: rest).drop n, reads := r.reads + 1 })

abbrev SerdeError := String

inductive FrameError where
  | eof
  | tooLarge (len : ℕ)
  | malformed (e : SerdeError)
  | io (kind : IoErrorKind)
  deriving DecidableEq

/-- The JSON codec of a message type. -/
structure Serde (Msg : Type) where
  toVec : Msg → Except SerdeError Bytes
  fromSlice : Bytes → Except SerdeError Msg

/-- `u32::to_be_bytes` -/
def toBeBytes (len : ℕ) : Bytes :=
  [UInt8.ofNat (len / 2 ^ 24), UInt8.ofNat (len / 2 ^ 16), UInt8.ofNat (len / 2 ^ 8),
    UInt8.ofNat len]

/-- `u32::from_be_bytes` -/
def fromBeBytes (header : Bytes) : ℕ :=
  header.foldl (fun len byte => len * 2 ^ 8 + byte.toNat) 0

variable {Msg : Type}

def writeFrame (serde : Serde Msg) (w : Bytes) (message : Msg) : Except FrameError Bytes :=
  match serde.toVec message with
  | .error e => .error (.malformed e)
  | .ok body =>
      if 2 ^ 32 ≤ body.length then .error (.tooLarge (2 ^ 32 - 1))
      else if aiMaxFrameBytes < body.length then .error (.tooLarge body.length)
      else .ok (w ++ toBeBytes body.length ++ body)

def writeFrames (serde : Serde Msg) (w : Bytes) (messages : List Msg) : Except FrameError Bytes :=
  messages.foldlM (writeFrame serde) w

/-- Fills the buffer, of which `filled` is there. -/
def readExact (r : Reader) (want : ℕ) (filled : Bytes) : Except FrameError Bytes × Reader :=
  if filled.length < want then
    match r.read (want - filled.length) with
    | (.ok [], r) => (.error .eof, r)
    | (.ok (byte :: bytes), r) => readExact r want (filled ++ byte :: bytes)
    | (.error .unexpectedEof, r) => (.error .eof, r)
    | (.error kind, r) => (.error (.io kind), r)
  else (.ok filled, r)
termination_by want - filled.length
decreasing_by
  rw [List.length_append, List.length_cons]
  omega

def readFrame (serde : Serde Msg) (r : Reader) : Except FrameError Msg × Reader :=
  match readExact r 4 [] with
  | (.error e, r) => (.error e, r)
  | (.ok header, r) =>
      if aiMaxFrameBytes < fromBeBytes header then (.error (.tooLarge (fromBeBytes header)), r)
      else
        match readExact r (fromBeBytes header) [] with
        | (.error e, r) => (.error e, r)
        | (.ok body, r) => ((serde.fromSlice body).mapError .malformed, r)

/-- Reads frames up to the first error, `n` at most. -/
def readFrames (serde : Serde Msg) : ℕ → Reader → List Msg × Option FrameError
  | 0, _ => ([], none)
  | n + 1, r =>
      match readFrame serde r with
      | (.error e, _) => ([], some e)
      | (.ok message, r) =>
          let rest := readFrames serde n r
          (message :: rest.1, rest.2)

def Ending.frameError : Ending → FrameError
  | .fin | .error .unexpectedEof => .eof
  | .error kind => .io kind

section Read

variable {r : Reader} {want : ℕ} {filled : Bytes}

theorem read_of_unread
    (h : r.unread ≠ []) (hwant : 0 < want) :
    ∃ n, 0 < n ∧ n ≤ want ∧
      r.read want =
        (.ok (r.unread.take n), { r with unread := r.unread.drop n, reads := r.reads + 1 }) := by
  refine ⟨max 1 (min (r.ready r.reads) want), by omega, by omega, ?_⟩
  unfold Reader.read
  split
  · next hnil _ => exact absurd hnil h
  · next hnil _ => exact absurd hnil h
  · next hcons => rw [hcons]

theorem readExact_done (h : want ≤ filled.length) : readExact r want filled = (.ok filled, r) := by
  rw [readExact, if_neg (Nat.not_lt.mpr h)]

/-- A turn of the loop on a stream that still has bytes. -/
theorem readExact_more
    (h : r.unread ≠ []) (hwant : filled.length < want) :
    ∃ n, 0 < n ∧ n ≤ want - filled.length ∧
      readExact r want filled =
        readExact { r with unread := r.unread.drop n, reads := r.reads + 1 } want
          (filled ++ r.unread.take n) := by
  obtain ⟨n, hpos, hle, hread⟩ := read_of_unread h (Nat.sub_pos_of_lt hwant)
  refine ⟨n, hpos, hle, ?_⟩
  obtain ⟨byte, rest, hcons⟩ := List.exists_cons_of_ne_nil h
  obtain ⟨n, rfl⟩ := Nat.exists_eq_succ_of_ne_zero (Nat.ne_of_gt hpos)
  rw [readExact, if_pos hwant, hread, hcons]
  rfl

/-- The loop on a stream that has ended. -/
theorem readExact_ended
    (h : r.unread = []) (hwant : filled.length < want) :
    ∃ r', readExact r want filled = (.error r.ending.frameError, r') := by
  have hread : r.read (want - filled.length) =
      match r.ending with
      | .fin => (.ok [], { r with reads := r.reads + 1 })
      | .error kind => (.error kind, { r with reads := r.reads + 1 }) := by
    unfold Reader.read
    rw [h]
    cases r.ending <;> rfl
  rw [readExact, if_pos hwant, hread]
  cases r.ending with
  | fin => exact ⟨_, rfl⟩
  | error kind => cases kind <;> exact ⟨_, rfl⟩

theorem readExact_filled
    (h : want - filled.length ≤ r.unread.length) :
    ∃ reads, readExact r want filled =
      (.ok (filled ++ r.unread.take (want - filled.length)),
        { r with unread := r.unread.drop (want - filled.length), reads := reads }) := by
  generalize hmissing : want - filled.length = missing at h ⊢
  induction missing using Nat.strongRecOn generalizing r filled with
  | _ missing ih =>
      rcases Nat.eq_zero_or_pos missing with rfl | hpos
      · refine ⟨r.reads, ?_⟩
        rw [readExact_done (by omega), List.take_zero, List.append_nil, List.drop_zero]
      · have hunread : r.unread ≠ [] := by
          intro hnil
          rw [hnil, List.length_nil] at h
          omega
        obtain ⟨n, hn, hle, hturn⟩ := readExact_more hunread (by omega : filled.length < want)
        have htaken : (r.unread.take n).length = n := List.length_take_of_le (by omega)
        have hrest : want - (filled ++ r.unread.take n).length = missing - n := by
          rw [List.length_append, htaken]
          omega
        have hleft : missing - n ≤ (r.unread.drop n).length := by
          rw [List.length_drop]
          omega
        obtain ⟨reads, hread⟩ := ih (missing - n) (by omega)
          (r := { r with unread := r.unread.drop n, reads := r.reads + 1 }) hrest hleft
        refine ⟨reads, ?_⟩
        rw [hturn, hread, List.append_assoc, List.drop_drop, ← List.take_add]
        rw [Nat.add_sub_cancel' (by omega : n ≤ missing)]

theorem readExact_truncated
    (h : r.unread.length < want - filled.length) :
    ∃ r', readExact r want filled = (.error r.ending.frameError, r') := by
  generalize hleft : r.unread.length = left at h
  induction left using Nat.strongRecOn generalizing r filled with
  | _ left ih =>
      by_cases hunread : r.unread = []
      · exact readExact_ended hunread (by omega)
      · obtain ⟨n, hn, hle, hturn⟩ := readExact_more hunread (by omega : filled.length < want)
        have hpos := List.length_pos_of_ne_nil hunread
        rw [hturn]
        refine ih (left - n) (by omega)
          (r := { r with unread := r.unread.drop n, reads := r.reads + 1 }) ?_ ?_
        · rw [List.length_drop, hleft]
        · rw [List.length_append, List.length_take]
          omega

end Read

/-! ## Streams of frames -/

/-- Decoding undoes encoding. -/
def Serde.Lawful (serde : Serde Msg) : Prop :=
  ∀ message body, serde.toVec message = .ok body → serde.fromSlice body = .ok message

inductive Framed (serde : Serde Msg) : List Msg → Bytes → Prop
  | nil : Framed serde [] []
  | cons {message : Msg} {body : Bytes} {messages : List Msg} {stream : Bytes}
      (hbody : serde.toVec message = .ok body) (hlen : body.length ≤ aiMaxFrameBytes)
      (hrest : Framed serde messages stream) :
      Framed serde (message :: messages) (toBeBytes body.length ++ body ++ stream)

section Frames

variable {serde : Serde Msg} {r : Reader} {message : Msg} {messages : List Msg}
  {stream w body header rest : Bytes}

@[simp]
theorem toBeBytes_length (len : ℕ) : (toBeBytes len).length = 4 := rfl

theorem fromBeBytes_toBeBytes {len : ℕ} (h : len < 2 ^ 32) : fromBeBytes (toBeBytes len) = len := by
  simp only [fromBeBytes, toBeBytes, List.foldl_cons, List.foldl_nil, UInt8.toNat_ofNat']
  omega

theorem writeFrame_eq_ok (h : writeFrame serde w message = .ok stream) :
    ∃ body, serde.toVec message = .ok body ∧ body.length ≤ aiMaxFrameBytes ∧
      stream = w ++ (toBeBytes body.length ++ body) := by
  unfold writeFrame at h
  split at h
  · cases h
  · next body hbody =>
    split at h
    · cases h
    · split at h
      · cases h
      · next hlen =>
        cases h
        exact ⟨body, hbody, Nat.not_lt.mp hlen, List.append_assoc ..⟩

theorem framed_of_write
    (h : writeFrames serde w messages = .ok stream) :
    ∃ frames, stream = w ++ frames ∧ Framed serde messages frames := by
  induction messages generalizing w with
  | nil =>
      cases h
      exact ⟨[], (List.append_nil _).symm, .nil⟩
  | cons message messages ih =>
      unfold writeFrames at h
      rw [List.foldlM_cons] at h
      cases hframe : writeFrame serde w message with
      | error =>
          rw [hframe] at h
          cases h
      | ok =>
          rw [hframe] at h
          obtain ⟨body, hbody, hlen, rfl⟩ := writeFrame_eq_ok hframe
          obtain ⟨frames, rfl, hframes⟩ := ih h
          exact ⟨_, by simp only [List.append_assoc], .cons hbody hlen hframes⟩

/-- The header is read first, and alone. -/
theorem readExact_header
    (hunread : r.unread = header ++ rest) (hheader : header.length = 4) :
    ∃ reads, readExact r 4 [] = (.ok header, { r with unread := rest, reads := reads }) := by
  have hlen : 4 - ([] : Bytes).length ≤ r.unread.length := by
    rw [hunread, List.length_append, hheader, List.length_nil]
    omega
  obtain ⟨reads, hread⟩ := readExact_filled hlen
  refine ⟨reads, ?_⟩
  rw [hread, hunread, List.length_nil, Nat.sub_zero, ← hheader, List.nil_append, List.take_left,
    List.drop_left]

theorem readFrame_too_large
    (hunread : r.unread = header ++ rest) (hheader : header.length = 4)
    (hlarge : aiMaxFrameBytes < fromBeBytes header) :
    ∃ r', readFrame serde r = (.error (.tooLarge (fromBeBytes header)), r') ∧ r'.unread = rest := by
  obtain ⟨reads, hread⟩ := readExact_header hunread hheader
  unfold readFrame
  rw [hread]
  simp only [if_pos hlarge]
  exact ⟨_, rfl, rfl⟩

theorem fromBeBytes_frame (hlen : body.length ≤ aiMaxFrameBytes) :
    fromBeBytes (toBeBytes body.length) = body.length := by
  unfold aiMaxFrameBytes at hlen
  exact fromBeBytes_toBeBytes (by omega)

theorem readFrame_whole
    (hserde : serde.fromSlice body = .ok message) (hlen : body.length ≤ aiMaxFrameBytes)
    (hunread : r.unread = toBeBytes body.length ++ body ++ rest) :
    ∃ reads, readFrame serde r = (.ok message, { r with unread := rest, reads := reads }) := by
  obtain ⟨reads, hheader⟩ :=
    readExact_header (hunread.trans (List.append_assoc ..)) (toBeBytes_length _)
  have hfits : body.length - ([] : Bytes).length ≤ (body ++ rest).length := by
    rw [List.length_append, List.length_nil]
    omega
  obtain ⟨reads', hbody⟩ :=
    readExact_filled (r := { r with unread := body ++ rest, reads := reads }) hfits
  refine ⟨reads', ?_⟩
  unfold readFrame
  rw [hheader]
  simp only [fromBeBytes_frame hlen, if_neg (Nat.not_lt.mpr hlen), hbody, List.length_nil,
    Nat.sub_zero, List.nil_append, List.take_left, List.drop_left, hserde]
  rfl

/-- A frame that is cut anywhere is an end of the stream. -/
theorem readFrame_cut
    (hlen : body.length ≤ aiMaxFrameBytes)
    (hunread : r.unread <+: toBeBytes body.length ++ body)
    (hcut : r.unread.length < 4 + body.length) :
    ∃ r', readFrame serde r = (.error r.ending.frameError, r') := by
  unfold readFrame
  by_cases hheader : r.unread.length < 4
  · have hshort : r.unread.length < 4 - ([] : Bytes).length := hheader
    obtain ⟨r', hread⟩ := readExact_truncated hshort
    rw [hread]
    exact ⟨r', rfl⟩
  · obtain ⟨rest, hrest⟩ : ∃ rest, r.unread = toBeBytes body.length ++ rest := by
      obtain ⟨rest, hrest⟩ :=
        List.prefix_of_prefix_length_le (List.prefix_append _ body) hunread (by simpa using hheader)
      exact ⟨rest, hrest.symm⟩
    obtain ⟨reads, hread⟩ := readExact_header hrest (toBeBytes_length _)
    have hshort : rest.length < body.length - ([] : Bytes).length := by
      rw [hrest, List.length_append, toBeBytes_length] at hcut
      rw [List.length_nil]
      omega
    obtain ⟨r', hbody⟩ :=
      readExact_truncated (r := { r with unread := rest, reads := reads }) hshort
    rw [hread]
    simp only [fromBeBytes_frame hlen, if_neg (Nat.not_lt.mpr hlen), hbody]
    exact ⟨r', rfl⟩

theorem readFrames_framed
    (hserde : serde.Lawful) (hframed : Framed serde messages stream)
    (hunread : r.unread <+: stream) :
    ∃ k, k ≤ messages.length ∧ (k = messages.length ↔ r.unread = stream) ∧
      ∀ n, readFrames serde n r =
        (messages.take (min n k), if n ≤ k then none else some r.ending.frameError) := by
  have hstop : ∀ (r : Reader) (messages : List Msg) (e : FrameError) (r' : Reader),
      readFrame serde r = (.error e, r') →
      ∀ n, readFrames serde n r = (messages.take (min n 0), if n ≤ 0 then none else some e) := by
    intro r messages e r' hread n
    cases n with
    | zero => rfl
    | succ => simp [readFrames, hread]
  induction hframed generalizing r with
  | nil =>
      rw [List.prefix_nil] at hunread
      obtain ⟨r', hread⟩ : ∃ r', readFrame serde r = (.error r.ending.frameError, r') := by
        have hshort : r.unread.length < 4 - ([] : Bytes).length := by rw [hunread]; decide
        obtain ⟨r', hread⟩ := readExact_truncated hshort
        unfold readFrame
        rw [hread]
        exact ⟨r', rfl⟩
      exact ⟨0, Nat.le_refl 0, by simp [hunread], hstop r [] _ r' hread⟩
  | @cons message body messages stream hbody hlen hrest ih =>
      by_cases hcut : r.unread.length < 4 + body.length
      · have hframe : r.unread <+: toBeBytes body.length ++ body := by
          refine List.prefix_of_prefix_length_le hunread (List.prefix_append _ stream) ?_
          rw [List.length_append, toBeBytes_length]
          omega
        obtain ⟨r', hread⟩ := readFrame_cut hlen hframe hcut
        refine ⟨0, Nat.zero_le _, ?_, hstop r (message :: messages) _ r' hread⟩
        rw [List.length_cons]
        constructor
        · intro h
          omega
        · intro h
          rw [h] at hcut
          simp only [List.length_append, toBeBytes_length] at hcut
          omega
      · obtain ⟨rest, hrest⟩ : ∃ rest, r.unread = toBeBytes body.length ++ body ++ rest := by
          obtain ⟨rest, hrest⟩ :=
            List.prefix_of_prefix_length_le (List.prefix_append _ stream) hunread
              (by simpa using hcut)
          exact ⟨rest, hrest.symm⟩
        obtain ⟨reads, hread⟩ := readFrame_whole (hserde _ _ hbody) hlen hrest
        have htail : rest <+: stream := by
          rw [hrest] at hunread
          exact (List.prefix_append_right_inj _).mp hunread
        obtain ⟨k, hk, hwhole, hreads⟩ :=
          ih (r := { r with unread := rest, reads := reads }) htail
        refine ⟨k + 1, by simpa using hk, ?_, ?_⟩
        · rw [List.length_cons, Nat.add_right_cancel_iff, hwhole, hrest, List.append_right_inj]
        · intro n
          cases n with
          | zero => simp [readFrames]
          | succ => simp [readFrames, hread, hreads]

/-- What was written is read, whatever the reads are; a shorter stream is a shorter list;
and a header that announces too much is refused with the body still unread. -/
theorem frames_round_trip
    (hserde : serde.Lawful) (hwrite : writeFrames serde [] messages = .ok stream) :
    (∀ r : Reader, r.unread = stream → ∀ n, messages.length < n →
      readFrames serde n r = (messages, some r.ending.frameError)) ∧
    (∀ r : Reader, r.unread <+: stream → r.unread ≠ stream →
      ∃ k < messages.length, ∀ n, readFrames serde n r =
        (messages.take (min n k), if n ≤ k then none else some r.ending.frameError)) ∧
    (∀ (r : Reader) (header rest : Bytes), r.unread = header ++ rest → header.length = 4 →
      aiMaxFrameBytes < fromBeBytes header →
      ∃ r', readFrame serde r = (.error (.tooLarge (fromBeBytes header)), r') ∧
        r'.unread = rest) := by
  obtain ⟨frames, heq, hframed⟩ := framed_of_write hwrite
  rw [List.nil_append] at heq
  subst heq
  refine ⟨?_, ?_, fun r header rest hunread hheader => readFrame_too_large hunread hheader⟩
  · intro r hunread n hn
    have hall : r.unread <+: stream := hunread ▸ List.prefix_rfl
    obtain ⟨k, -, hwhole, hreads⟩ := readFrames_framed hserde hframed hall
    obtain rfl := hwhole.mpr hunread
    rw [hreads, if_neg (Nat.not_le.mpr hn), Nat.min_eq_right (Nat.le_of_lt hn), List.take_length]
  · intro r hunread hcut
    obtain ⟨k, hk, hwhole, hreads⟩ := readFrames_framed hserde hframed hunread
    exact ⟨k, Nat.lt_of_le_of_ne hk fun h => hcut (hwhole.mp h), hreads⟩

end Frames

def truth : Serde Bool where
  toVec value := .ok (if value then "true" else "false").toUTF8.toList
  fromSlice body :=
    if body = "true".toUTF8.toList then .ok true
    else if body = "false".toUTF8.toList then .ok false
    else .error "expected value"

theorem truth_lawful : truth.Lawful := by
  intro value body h
  cases h
  cases value <;> with_unfolding_all decide

/-- Two messages through a stream that hands over one byte at a time. -/
theorem frames_round_trip_truth :
    readFrames truth 3
      ⟨toBeBytes 4 ++ "true".toUTF8.toList ++ (toBeBytes 5 ++ "false".toUTF8.toList), .fin,
        fun _ => 1, 0⟩ =
      ([true, false], some .eof) :=
  (frames_round_trip truth_lawful (by with_unfolding_all decide)).1 _ rfl 3 (by decide)

end Hezarfen.Ai
