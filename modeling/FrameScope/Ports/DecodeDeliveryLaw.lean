import FrameScope.Ports.DecodeLoopLaw
import FrameScope.Verified.Runs

/-!
# Nothing is lost between the demuxer and the caller

A codec that records what it is asked answers as the codec does.  Its record shows
what a session of the shim does with its packets, for any codec: every packet of the
selected stream that the demuxer gave since the last seek is answered once and in
order, but for the one still pending; the flush comes after all of them and is
accepted once; and the caller gets the frames of the codec in order, numbered from
zero in the epoch of the seek.
-/

namespace FrameScope.Ports.DecodeDeliveryLaw

open FrameScope.Ports.DecodeLoop
open FrameScope.Ports.DecodeLoopLaw
open FrameScope.Verified

variable {κ κ' π : Type}

/-! ## A codec that keeps a record -/

/-- What a codec was sent with its answers, and the frames it gave, since it was flushed
by a seek. -/
structure Record (π : Type) where
  sends : List (Option π × Option AvError)
  frames : List AvFrame

def recorded (codec : Codec κ π) : Codec (κ × Record π) π where
  send k packet :=
    let (answer, k') := codec.send k.1 packet
    (answer, (k', { k.2 with sends := k.2.sends ++ [(packet, answer)] }))
  receive k :=
    let (answer, k') := codec.receive k.1
    match answer with
    | .ok frame => (.ok frame, (k', { k.2 with frames := k.2.frames ++ [frame] }))
    | .error error => (.error error, (k', k.2))
  flushBuffers k := (codec.flushBuffers k.1, ⟨[], []⟩)

/-- One codec answers as the other does. -/
structure Answers (codec' : Codec κ' π) (codec : Codec κ π) (f : κ' → κ) : Prop where
  send : ∀ k packet, codec.send (f k) packet =
    ((codec'.send k packet).1, f (codec'.send k packet).2)
  receive : ∀ k, codec.receive (f k) = ((codec'.receive k).1, f (codec'.receive k).2)
  flushBuffers : ∀ k, codec.flushBuffers (f k) = f (codec'.flushBuffers k)

theorem recorded_answers (codec : Codec κ π) : Answers (recorded codec) codec Prod.fst where
  send _ _ := rfl
  receive k := by
    cases hReceive : codec.receive k.1 with
    | mk answer k' => cases answer <;> simp [recorded, hReceive]
  flushBuffers _ := rfl

/-- A session with another state of its codec. -/
def withCodec (f : κ' → κ) (s : FsSession κ' π) : FsSession κ π where
  codec := f s.codec
  source := s.source
  packet := s.packet
  demuxEof := s.demuxEof
  packetPending := s.packetPending
  flushSent := s.flushSent
  epoch := s.epoch
  frameIndex := s.frameIndex
  polls := s.polls

section Answers

variable {codec' : Codec κ' π} {codec : Codec κ π} {f : κ' → κ}
  (stream : FsStream) (cancelled : Nat → Bool)

theorem submitCurrentPacket_answers (h : Answers codec' codec f) (s : FsSession κ' π) :
    submitCurrentPacket codec (withCodec f s) =
      Prod.map id (withCodec f) (submitCurrentPacket codec' s) := by
  have hSend := h.send s.codec (s.packet.map AvPacket.data)
  unfold submitCurrentPacket
  rw [show (withCodec f s).codec = f s.codec from rfl,
    show (withCodec f s).packet = s.packet from rfl, hSend]
  cases codec'.send s.codec (s.packet.map AvPacket.data) with
  | mk answer k =>
      cases answer with
      | none => rfl
      | some error => cases error <;> rfl

theorem sendFlush_answers (h : Answers codec' codec f) (s : FsSession κ' π) :
    sendFlush codec (withCodec f s) = Prod.map id (withCodec f) (sendFlush codec' s) := by
  have hSend := h.send s.codec none
  unfold sendFlush
  rw [show (withCodec f s).codec = f s.codec from rfl, hSend]
  cases codec'.send s.codec none with
  | mk answer k =>
      cases answer with
      | none => rfl
      | some error => cases error <;> rfl

theorem feed_answers (h : Answers codec' codec f) (s : FsSession κ' π) :
    feed codec stream cancelled (withCodec f s) =
      Prod.map id (withCodec f) (feed codec' stream cancelled s) := by
  unfold feed
  by_cases hPending : s.packetPending = true
  · rw [if_pos hPending, if_pos (show (withCodec f s).packetPending = true from hPending)]
    exact submitCurrentPacket_answers h s
  · rw [if_neg hPending, if_neg (show ¬(withCodec f s).packetPending = true from hPending)]
    by_cases hEof : s.demuxEof = true
    · rw [if_pos hEof, if_pos (show (withCodec f s).demuxEof = true from hEof)]
      exact sendFlush_answers h s
    · rw [if_neg hEof, if_neg (show ¬(withCodec f s).demuxEof = true from hEof),
        show (withCodec f s).source = s.source from rfl]
      cases readSelected stream s.source with
      | packet packet rest =>
          exact submitCurrentPacket_answers h { s with source := rest, packet := some packet }
      | eof rest =>
          exact sendFlush_answers h { s with source := rest, packet := none, demuxEof := true }
      | failure error rest => rfl

theorem decodeRound_answers (h : Answers codec' codec f) (s : FsSession κ' π) :
    decodeRound codec stream cancelled (withCodec f s) =
      Prod.map id (withCodec f) (decodeRound codec' stream cancelled s) := by
  have hReceive := h.receive s.codec
  unfold decodeRound
  rw [show (withCodec f s).polls = s.polls from rfl,
    show (withCodec f s).codec = f s.codec from rfl, hReceive]
  by_cases hCancelled : cancelled s.polls = true
  · rw [if_pos hCancelled, if_pos hCancelled]
    rfl
  · rw [if_neg hCancelled, if_neg hCancelled]
    cases codec'.receive s.codec with
    | mk received k =>
        cases received with
        | ok frame => rfl
        | error error =>
            cases error with
            | again =>
                have hFeed := feed_answers stream cancelled h
                  { s with codec := k, polls := s.polls + 1 }
                by_cases hSent : s.flushSent = true
                · dsimp only
                  rw [if_pos hSent, if_pos (show (withCodec f s).flushSent = true from hSent)]
                  rfl
                · dsimp only
                  rw [if_neg hSent, if_neg (show ¬(withCodec f s).flushSent = true from hSent)]
                  rw [show ({ withCodec f s with codec := f k, polls := s.polls + 1 } :
                    FsSession κ π) = withCodec f { s with codec := k, polls := s.polls + 1 }
                    from rfl, hFeed]
                  cases feed codec' stream cancelled
                      { s with codec := k, polls := s.polls + 1 } with
                  | mk fed s' => cases fed <;> rfl
            | eof => rfl
            | invalidData => rfl
            | exit => rfl
            | other code => rfl

theorem nextFrameRounds_answers (h : Answers codec' codec f) (n : Nat) (s : FsSession κ' π) :
    nextFrameRounds codec stream cancelled n (withCodec f s) =
      Prod.map id (withCodec f) (nextFrameRounds codec' stream cancelled n s) := by
  induction n generalizing s with
  | zero => rfl
  | succ n ih =>
      rw [nextFrameRounds, nextFrameRounds, decodeRound_answers stream cancelled h]
      cases decodeRound codec' stream cancelled s with
      | mk answer s' =>
          cases answer with
          | none => exact ih s'
          | some answer => rfl

theorem call_answers (h : Answers codec' codec f) (s : FsSession κ' π) (request : Call π) :
    (withCodec f s).call codec stream cancelled request =
      Prod.map id (withCodec f) (s.call codec' stream cancelled request) := by
  cases request with
  | nextFrame =>
      have hLoop := nextFrameRounds_answers stream cancelled h (s.rounds + 1) s
      show Prod.map Answer.frame id
        (nextFrameRounds codec stream cancelled (s.rounds + 1) (withCodec f s)) = _
      rw [hLoop]
      rfl
  | seekUs timestampUs failure source =>
      have hFlush := h.flushBuffers s.codec
      simp only [FsSession.call, seekUs]
      rw [show (withCodec f s).polls = s.polls from rfl,
        show (withCodec f s).codec = f s.codec from rfl, hFlush]
      by_cases hNegative : timestampUs < 0
      · rw [if_pos hNegative, if_pos hNegative]
        rfl
      · rw [if_neg hNegative, if_neg hNegative]
        by_cases hCancelled : cancelled s.polls = true
        · rw [if_pos hCancelled, if_pos hCancelled]
          rfl
        · rw [if_neg hCancelled, if_neg hCancelled]
          by_cases hBase : stream.timeBaseNum ≤ 0 ∨ stream.timeBaseDen ≤ 0
          · rw [if_pos hBase, if_pos hBase]
            rfl
          · rw [if_neg hBase, if_neg hBase]
            cases failure <;> rfl

end Answers

/-! ## The packets -/

/-- The packets a codec did not put off. -/
def answered (sends : List (Option π × Option AvError)) : List π :=
  sends.filterMap fun sent => if sent.2 = some .again then none else sent.1

/-- The flushes a codec took, or had taken already. -/
def flushes (sends : List (Option π × Option AvError)) : Nat :=
  sends.countP fun sent => sent.1.isNone && (sent.2 == none || sent.2 == some .eof)

def held (s : FsSession κ π) : List π :=
  if s.packetPending = true then (s.packet.map AvPacket.data).toList else []

/-- No flush was tried yet. -/
def Unflushed (sends : List (Option π × Option AvError)) : Prop :=
  ∀ sent ∈ sends, sent.1 ≠ none

@[simp] theorem answered_append (sends sends' : List (Option π × Option AvError)) :
    answered (sends ++ sends') = answered sends ++ answered sends' :=
  List.filterMap_append

@[simp] theorem flushes_append (sends sends' : List (Option π × Option AvError)) :
    flushes (sends ++ sends') = flushes sends + flushes sends' :=
  List.countP_append

theorem Unflushed.flushes_eq {sends : List (Option π × Option AvError)} (h : Unflushed sends) :
    flushes sends = 0 := by
  apply List.countP_eq_zero.2
  intro sent hSent
  have hSome := h sent hSent
  cases hPacket : sent.1 with
  | none => exact absurd hPacket hSome
  | some data => simp

theorem Unflushed.append_packet {sends : List (Option π × Option AvError)}
    (h : Unflushed sends) (data : π) (answer : Option AvError) :
    Unflushed (sends ++ [(some data, answer)]) := by
  intro sent hSent
  cases List.mem_append.1 hSent with
  | inl hOld => exact h sent hOld
  | inr hNew =>
      rw [List.mem_singleton.1 hNew]
      simp

theorem Unflushed.pairwise {sends : List (Option π × Option AvError)} (h : Unflushed sends) :
    sends.Pairwise fun sent later => sent.1 = none → later.1 = none :=
  List.Pairwise.imp_of_mem (R := fun _ _ => True)
    (fun hSent _ _ hNone => absurd hNone (h _ hSent)) (List.pairwise_of_forall (by simp))

variable (stream : FsStream)

/-- What is kept about the packets a session has taken from its demuxer. -/
structure Accounts (taken : List (Demuxed π)) (s : FsSession (κ × Record π) π) : Prop where
  answered : answered s.codec.2.sends ++ held s = selected stream taken
  packet : s.packetPending = true → s.packet ≠ none
  ordered : s.codec.2.sends.Pairwise fun sent later => sent.1 = none → later.1 = none
  atEnd : ¬ Unflushed s.codec.2.sends → s.demuxEof = true ∧ s.packetPending = false
  flushed : flushes s.codec.2.sends = if s.flushSent = true then 1 else 0

/-- What a round of feeding leaves alone. -/
structure SameFrames (s s' : FsSession (κ × Record π) π) : Prop where
  frames : s'.codec.2.frames = s.codec.2.frames
  epoch : s'.epoch = s.epoch
  frameIndex : s'.frameIndex = s.frameIndex

variable {stream} (codec : Codec κ π) {taken : List (Demuxed π)}

/-- The packet at hand is answered, or held until the codec takes it. -/
theorem submitCurrentPacket_accounts {s : FsSession (κ × Record π) π} {packet : AvPacket π}
    (hPacket : s.packet = some packet) (hSends : Unflushed s.codec.2.sends)
    (hSent : s.flushSent = false)
    (hTaken : answered s.codec.2.sends ++ [packet.data] = selected stream taken) :
    Accounts stream taken (submitCurrentPacket (recorded codec) s).2 ∧
      SameFrames s (submitCurrentPacket (recorded codec) s).2 ∧
      (submitCurrentPacket (recorded codec) s).2.source = s.source := by
  cases hSend : codec.send s.codec.1 (some packet.data) with
  | mk answer k =>
      have hSends' := hSends.append_packet packet.data answer
      have hDone : ∀ s' : FsSession (κ × Record π) π,
          s'.codec.2.sends = s.codec.2.sends ++ [(some packet.data, answer)] →
          s'.flushSent = s.flushSent → (s'.packetPending = true → s'.packet = some packet) →
          answered [(some packet.data, answer)] ++ held s' = [packet.data] →
          Accounts stream taken s' := by
        intro s' hRecord hFlush hHeld hAnswer
        have hUnflushed : Unflushed s'.codec.2.sends := hRecord ▸ hSends'
        refine ⟨?_, ?_, hUnflushed.pairwise, fun h => absurd hUnflushed h, ?_⟩
        · rw [hRecord, answered_append, List.append_assoc, hAnswer, hTaken]
        · intro hPending
          rw [hHeld hPending]
          simp
        · rw [hUnflushed.flushes_eq, hFlush, hSent]
          rfl
      simp only [submitCurrentPacket, recorded, hPacket, Option.map_some, hSend]
      cases answer with
      | none => exact ⟨hDone _ rfl rfl (by simp) (by simp [answered, held]), ⟨rfl, rfl, rfl⟩, rfl⟩
      | some error =>
          cases error with
          | again =>
              exact ⟨hDone _ rfl rfl (fun _ => rfl) (by simp [answered, held]),
                ⟨rfl, rfl, rfl⟩, rfl⟩
          | invalidData =>
              exact ⟨hDone _ rfl rfl (by simp) (by simp [answered, held]), ⟨rfl, rfl, rfl⟩, rfl⟩
          | eof =>
              exact ⟨hDone _ rfl rfl (by simp) (by simp [answered, held]), ⟨rfl, rfl, rfl⟩, rfl⟩
          | exit =>
              exact ⟨hDone _ rfl rfl (by simp) (by simp [answered, held]), ⟨rfl, rfl, rfl⟩, rfl⟩
          | other code =>
              exact ⟨hDone _ rfl rfl (by simp) (by simp [answered, held]), ⟨rfl, rfl, rfl⟩, rfl⟩

/-- A flush that is tried at the end of the file, with nothing held. -/
theorem sendFlush_accounts {s : FsSession (κ × Record π) π} (h : Accounts stream taken s)
    (hEof : s.demuxEof = true) (hPending : s.packetPending = false)
    (hSent : s.flushSent = false) :
    Accounts stream taken (sendFlush (recorded codec) s).2 ∧
      SameFrames s (sendFlush (recorded codec) s).2 ∧
      (sendFlush (recorded codec) s).2.source = s.source := by
  have hNoFlush : flushes s.codec.2.sends = 0 := by simpa [hSent] using h.flushed
  have hDone : ∀ (answer : Option AvError) (s' : FsSession (κ × Record π) π),
      s'.codec.2.sends = s.codec.2.sends ++ [(none, answer)] →
      s'.demuxEof = s.demuxEof → s'.packetPending = s.packetPending →
      s'.packet = s.packet →
      flushes [((none : Option π), answer)] = (if s'.flushSent = true then 1 else 0) →
      Accounts stream taken s' := by
    intro answer s' hRecord hEof' hPending' hPacket' hFlush
    refine ⟨?_, ?_, ?_, ?_, ?_⟩
    · have hNone : answered [((none : Option π), answer)] = [] := by simp [answered]
      rw [hRecord, answered_append, hNone, List.append_nil, held, hPending', hPacket']
      exact h.answered
    · rw [hPending', hPacket']
      exact h.packet
    · rw [hRecord, List.pairwise_append]
      exact ⟨h.ordered, List.pairwise_singleton _ _, by simp⟩
    · rw [hEof', hPending']
      exact fun _ => ⟨hEof, hPending⟩
    · rw [hRecord, flushes_append, hNoFlush, hFlush, Nat.zero_add]
  cases hSend : codec.send s.codec.1 none with
  | mk answer k =>
      have hAnswer := hDone answer
      simp only [sendFlush, recorded, hSend]
      cases answer with
      | none => exact ⟨hAnswer _ rfl rfl rfl rfl rfl, ⟨rfl, rfl, rfl⟩, rfl⟩
      | some error =>
          cases error with
          | eof => exact ⟨hAnswer _ rfl rfl rfl rfl rfl, ⟨rfl, rfl, rfl⟩, rfl⟩
          | again =>
              exact ⟨hAnswer _ rfl rfl rfl rfl (by simp [flushes, hSent]), ⟨rfl, rfl, rfl⟩, rfl⟩
          | invalidData =>
              exact ⟨hAnswer _ rfl rfl rfl rfl (by simp [flushes, hSent]), ⟨rfl, rfl, rfl⟩, rfl⟩
          | exit =>
              exact ⟨hAnswer _ rfl rfl rfl rfl (by simp [flushes, hSent]), ⟨rfl, rfl, rfl⟩, rfl⟩
          | other code =>
              exact ⟨hAnswer _ rfl rfl rfl rfl (by simp [flushes, hSent]), ⟨rfl, rfl, rfl⟩, rfl⟩

theorem selected_append (first rest : List (Demuxed π)) :
    selected stream (first ++ rest) = selected stream first ++ selected stream rest :=
  List.filterMap_append

variable (cancelled : Nat → Bool)

/-- What is fed is what was taken from the demuxer. -/
theorem feed_accounts {s : FsSession (κ × Record π) π} (h : Accounts stream taken s)
    (hSent : s.flushSent = false) :
    ∃ more, s.source = more ++ (feed (recorded codec) stream cancelled s).2.source ∧
      Accounts stream (taken ++ more) (feed (recorded codec) stream cancelled s).2 ∧
      SameFrames s (feed (recorded codec) stream cancelled s).2 := by
  unfold feed
  by_cases hPending : s.packetPending = true
  · rw [if_pos hPending]
    have hUnflushed : Unflushed s.codec.2.sends := by
      by_contra hFlushed
      have := (h.atEnd hFlushed).2
      rw [hPending] at this
      cases this
    cases hPacket : s.packet with
    | none => exact absurd hPacket (h.packet hPending)
    | some packet =>
        have hTaken : answered s.codec.2.sends ++ [packet.data] = selected stream taken := by
          simpa [held, hPending, hPacket] using h.answered
        have hSubmit := submitCurrentPacket_accounts codec hPacket hUnflushed hSent hTaken
        refine ⟨[], by rw [hSubmit.2.2, List.nil_append], ?_, hSubmit.2.1⟩
        rw [List.append_nil]
        exact hSubmit.1
  · rw [if_neg hPending]
    have hPending : s.packetPending = false := by simpa using hPending
    have hAnswered : answered s.codec.2.sends = selected stream taken := by
      simpa [held, hPending] using h.answered
    by_cases hEof : s.demuxEof = true
    · rw [if_pos hEof]
      have hFlush := sendFlush_accounts codec h hEof hPending hSent
      refine ⟨[], by rw [hFlush.2.2, List.nil_append], ?_, hFlush.2.1⟩
      rw [List.append_nil]
      exact hFlush.1
    · rw [if_neg hEof]
      have hUnflushed : Unflushed s.codec.2.sends := by
        by_contra hFlushed
        exact hEof (h.atEnd hFlushed).1
      obtain ⟨more, hSource, hData⟩ := readSelected_split stream s.source
      -- the read gives one packet, none at the end of the file, or none and an error
      have hRead : ∀ s' : FsSession (κ × Record π) π, s'.codec = s.codec →
          s'.packetPending = false → s'.flushSent = false →
          selected stream more = [] → Accounts stream (taken ++ more) s' := by
        intro s' hCodec hPending' hSent' hNone
        refine ⟨?_, ?_, ?_, ?_, ?_⟩
        · rw [selected_append, hNone, List.append_nil, hCodec, held, hPending']
          simpa using hAnswered
        · simp [hPending']
        · rw [hCodec]
          exact h.ordered
        · rw [hCodec]
          exact fun hFlushed => absurd hUnflushed hFlushed
        · rw [hCodec, hUnflushed.flushes_eq, hSent']
          rfl
      cases hSelected : readSelected stream s.source with
      | packet packet rest =>
          rw [hSelected] at hSource hData
          have hTaken : answered s.codec.2.sends ++ [packet.data] =
              selected stream (taken ++ more) := by
            rw [selected_append, hData, hAnswered]
            rfl
          have hSubmit := submitCurrentPacket_accounts codec
            (s := { s with source := rest, packet := some packet }) rfl hUnflushed hSent hTaken
          have hSame := hSubmit.2.1
          exact ⟨more, by rw [hSubmit.2.2]; exact hSource, hSubmit.1,
            ⟨hSame.frames, hSame.epoch, hSame.frameIndex⟩⟩
      | eof rest =>
          rw [hSelected] at hSource hData
          have hFlush := sendFlush_accounts codec
            (s := { s with source := rest, packet := none, demuxEof := true })
            (hRead _ rfl hPending hSent hData) rfl hPending hSent
          have hSame := hFlush.2.1
          exact ⟨more, by rw [hFlush.2.2]; exact hSource, hFlush.1,
            ⟨hSame.frames, hSame.epoch, hSame.frameIndex⟩⟩
      | failure error rest =>
          rw [hSelected] at hSource hData
          exact ⟨more, hSource, hRead _ rfl hPending hSent hData, ⟨rfl, rfl, rfl⟩⟩

/-! ## The frames -/

def framesOf : Option NextFrame → List FsFrameInfo
  | some (.frame info) => [info]
  | _ => []

/-- The frames of the codec in their order, numbered from zero. -/
def numbered (stream : FsStream) (epoch : Nat) (frames : List AvFrame) : List FsFrameInfo :=
  frames.zipIdx.map fun (frame, index) => fillFrameInfo stream epoch (index % 2 ^ 64) frame

theorem numbered_concat (epoch : Nat) (frames : List AvFrame) (frame : AvFrame) :
    numbered stream epoch (frames ++ [frame]) =
      numbered stream epoch frames ++
        [fillFrameInfo stream epoch (frames.length % 2 ^ 64) frame] := by
  simp [numbered, List.zipIdx_append]

/-- What the caller got in the epoch of a session, with the account of its packets. -/
structure Delivered (stream : FsStream) (taken : List (Demuxed π))
    (returned : List FsFrameInfo) (s : FsSession (κ × Record π) π) : Prop where
  accounts : Accounts stream taken s
  returned : returned = numbered stream s.epoch s.codec.2.frames
  frameIndex : s.frameIndex = s.codec.2.frames.length % 2 ^ 64

theorem Delivered.same {returned : List FsFrameInfo} {taken' : List (Demuxed π)}
    {s s' : FsSession (κ × Record π) π} (h : Delivered stream taken returned s)
    (hSame : SameFrames s s') (hAccounts : Accounts stream taken' s') :
    Delivered stream taken' returned s' := by
  refine ⟨hAccounts, ?_, ?_⟩
  · rw [hSame.epoch, hSame.frames]
    exact h.returned
  · rw [hSame.frameIndex, hSame.frames]
    exact h.frameIndex

/-- The codec is asked for a frame, which leaves the account of the packets. -/
theorem Accounts.received {s s' : FsSession (κ × Record π) π} (h : Accounts stream taken s)
    (hSends : s'.codec.2.sends = s.codec.2.sends) (hEof : s'.demuxEof = s.demuxEof)
    (hPacket : s'.packet = s.packet) (hPending : s'.packetPending = s.packetPending)
    (hSent : s'.flushSent = s.flushSent) : Accounts stream taken s' := by
  refine ⟨?_, ?_, ?_, ?_, ?_⟩
  · rw [hSends, held, hPending, hPacket]
    exact h.answered
  · rw [hPending, hPacket]
    exact h.packet
  · rw [hSends]
    exact h.ordered
  · rw [hSends, hEof, hPending]
    exact h.atEnd
  · rw [hSends, hSent]
    exact h.flushed

/-- One round takes packets from the demuxer and gives one frame at most. -/
theorem decodeRound_delivered {returned : List FsFrameInfo} {s : FsSession (κ × Record π) π}
    (h : Delivered stream taken returned s) :
    ∃ more, s.source = more ++ (decodeRound (recorded codec) stream cancelled s).2.source ∧
      Delivered stream (taken ++ more)
        (returned ++ framesOf (decodeRound (recorded codec) stream cancelled s).1)
        (decodeRound (recorded codec) stream cancelled s).2 := by
  -- a round that takes nothing from the demuxer and gives no frame
  have hIdle : ∀ s' : FsSession (κ × Record π) π, SameFrames s s' → Accounts stream taken s' →
      s'.source = s.source → ∃ more, s.source = more ++ s'.source ∧
        Delivered stream (taken ++ more) (returned ++ []) s' := by
    intro s' hSame hAccounts hSource
    refine ⟨[], by rw [hSource, List.nil_append], ?_⟩
    rw [List.append_nil, List.append_nil]
    exact h.same hSame hAccounts
  unfold decodeRound
  by_cases hCancelled : cancelled s.polls = true
  · rw [if_pos hCancelled]
    exact hIdle _ ⟨rfl, rfl, rfl⟩ (h.accounts.received rfl rfl rfl rfl rfl) rfl
  · rw [if_neg hCancelled]
    cases hReceive : codec.receive s.codec.1 with
    | mk answer k =>
        cases answer with
        | ok frame =>
            simp only [recorded, hReceive]
            refine ⟨[], rfl, ?_, ?_, ?_⟩
            · rw [List.append_nil]
              exact h.accounts.received rfl rfl rfl rfl rfl
            · show returned ++ [fillFrameInfo stream s.epoch s.frameIndex frame] =
                numbered stream s.epoch (s.codec.2.frames ++ [frame])
              rw [numbered_concat, h.returned, h.frameIndex]
            · show (s.frameIndex + 1) % 2 ^ 64 = (s.codec.2.frames ++ [frame]).length % 2 ^ 64
              rw [h.frameIndex, List.length_append, List.length_singleton]
              omega
        | error error =>
            have hAsked : (recorded codec).receive s.codec = (.error error, (k, s.codec.2)) := by
              simp [recorded, hReceive]
            rw [hAsked]
            cases error with
            | again =>
                dsimp only
                by_cases hSent : s.flushSent = true
                · rw [if_pos hSent]
                  exact hIdle _ ⟨rfl, rfl, rfl⟩ (h.accounts.received rfl rfl rfl rfl rfl) rfl
                · rw [if_neg hSent]
                  have hSent : s.flushSent = false := by simpa using hSent
                  have hAccounts : Accounts stream taken
                      { s with codec := (k, s.codec.2), polls := s.polls + 1 } :=
                    h.accounts.received rfl rfl rfl rfl rfl
                  obtain ⟨more, hSource, hFed, hSame⟩ :=
                    feed_accounts codec cancelled hAccounts hSent
                  cases hFeed : feed (recorded codec) stream cancelled
                      { s with codec := (k, s.codec.2), polls := s.polls + 1 } with
                  | mk fed s' =>
                      rw [hFeed] at hSource hFed hSame
                      have hNext : Delivered stream (taken ++ more) (returned ++ []) s' := by
                        rw [List.append_nil]
                        exact h.same ⟨hSame.frames, hSame.epoch, hSame.frameIndex⟩ hFed
                      cases fed <;> exact ⟨more, hSource, hNext⟩
            | eof => exact hIdle _ ⟨rfl, rfl, rfl⟩ (h.accounts.received rfl rfl rfl rfl rfl) rfl
            | invalidData =>
                exact hIdle _ ⟨rfl, rfl, rfl⟩ (h.accounts.received rfl rfl rfl rfl rfl) rfl
            | exit => exact hIdle _ ⟨rfl, rfl, rfl⟩ (h.accounts.received rfl rfl rfl rfl rfl) rfl
            | other code =>
                exact hIdle _ ⟨rfl, rfl, rfl⟩ (h.accounts.received rfl rfl rfl rfl rfl) rfl

theorem nextFrameRounds_delivered {n : Nat} {returned : List FsFrameInfo}
    {s : FsSession (κ × Record π) π} (h : Delivered stream taken returned s) :
    ∃ more,
      s.source = more ++ (nextFrameRounds (recorded codec) stream cancelled n s).2.source ∧
      Delivered stream (taken ++ more)
        (returned ++ framesOf (nextFrameRounds (recorded codec) stream cancelled n s).1)
        (nextFrameRounds (recorded codec) stream cancelled n s).2 := by
  induction n generalizing taken s with
  | zero => exact ⟨[], rfl, by simpa [nextFrameRounds, framesOf] using h⟩
  | succ n ih =>
      obtain ⟨more, hSource, hRound⟩ := decodeRound_delivered codec cancelled h
      rw [nextFrameRounds]
      cases hDone : decodeRound (recorded codec) stream cancelled s with
      | mk answer s' =>
          rw [hDone] at hSource hRound
          cases answer with
          | some answer => exact ⟨more, hSource, hRound⟩
          | none =>
              have hRound : Delivered stream (taken ++ more) (returned ++ []) s' := hRound
              rw [List.append_nil] at hRound
              obtain ⟨rest, hRest, hLater⟩ := ih hRound
              refine ⟨more ++ rest, ?_, ?_⟩
              · rw [List.append_assoc, ← hRest]
                exact hSource
              · rw [← List.append_assoc]
                exact hLater

/-! ## Runs of calls -/

/-- A session with what it took from its demuxer and gave to its caller since the last
seek. -/
structure Played (κ π : Type) where
  session : FsSession (κ × Record π) π
  taken : List (Demuxed π)
  returned : List FsFrameInfo

/-- What the caller has, after an answer. -/
def returnedAfter (returned : List FsFrameInfo) : Answer → List FsFrameInfo
  | .frame answer => returned ++ framesOf answer
  | .sought none => []
  | .sought (some _) => returned

/-- What was taken from the demuxer: a call takes what is missing from its source. -/
def takenAfter (taken source source' : List (Demuxed π)) : Answer → List (Demuxed π)
  | .frame _ => taken ++ source.take (source.length - source'.length)
  | .sought none => []
  | .sought (some _) => taken

def Played.step (stream : FsStream) (p : Played κ π) (request : Call π) : Played κ π :=
  let (answer, s') := p.session.call (recorded codec) stream cancelled request
  { session := s'
    taken := takenAfter p.taken p.session.source s'.source answer
    returned := returnedAfter p.returned answer }

def Played.opened (k : κ) (source : List (Demuxed π)) : Played κ π :=
  ⟨FsSession.opened (k, ⟨[], []⟩) source, [], []⟩

theorem opened_delivered (k : κ) (source : List (Demuxed π)) (epoch polls : Nat) :
    Delivered stream [] []
      { FsSession.opened (k, ⟨[], []⟩) source with epoch := epoch, polls := polls } := by
  refine ⟨⟨rfl, by simp [FsSession.opened], List.Pairwise.nil, ?_, rfl⟩, rfl, rfl⟩
  intro hFlushed
  exact absurd (by simp [Unflushed, FsSession.opened]) hFlushed

theorem step_delivered {p : Played κ π} (h : Delivered stream p.taken p.returned p.session)
    (request : Call π) :
    Delivered stream (p.step codec cancelled stream request).taken
      (p.step codec cancelled stream request).returned
      (p.step codec cancelled stream request).session := by
  cases request with
  | nextFrame =>
      obtain ⟨more, hSource, hNext⟩ := nextFrameRounds_delivered codec cancelled
        (n := p.session.rounds + 1) h
      have hMore : p.session.source.take (p.session.source.length -
          (nextFrame (recorded codec) stream cancelled p.session).2.source.length) = more := by
        have hLength := (congrArg List.length hSource).trans List.length_append
        have hTake : p.session.source.length -
            (nextFrame (recorded codec) stream cancelled p.session).2.source.length =
            more.length := by
          rw [nextFrame]
          omega
        rw [hTake]
        nth_rewrite 1 [hSource]
        exact List.take_left' rfl
      show Delivered stream (p.taken ++ p.session.source.take (p.session.source.length -
          (nextFrame (recorded codec) stream cancelled p.session).2.source.length)) _ _
      rw [hMore]
      exact hNext
  | seekUs timestampUs failure source =>
      simp only [Played.step, FsSession.call]
      cases hSought : seekUs (recorded codec) stream cancelled p.session timestampUs failure
          source with
      | mk error s' =>
          cases error with
          | none =>
              have hOpened := seekUs_sought stream cancelled (congrArg Prod.fst hSought)
              rw [hSought] at hOpened
              rw [show s' = _ from hOpened]
              exact opened_delivered _ source _ _
          | some error =>
              have hFailed : (seekUs (recorded codec) stream cancelled p.session timestampUs
                  failure source).1 ≠ none := by
                rw [hSought]
                simp
              obtain ⟨source', polls, hSame⟩ := seekUs_failed stream cancelled hFailed
              rw [hSought] at hSame
              rw [show s' = _ from hSame]
              exact h.same ⟨rfl, rfl, rfl⟩ (h.accounts.received rfl rfl rfl rfl rfl)

/-- What the caller has after a run of answers. -/
def returnedSince (answers : List Answer) : List FsFrameInfo :=
  answers.foldl returnedAfter []

variable (stream)

/-- A run with its record is the run of the codec itself. -/
theorem run_answers (requests : List (Call π)) (p : Played κ π) :
    withCodec Prod.fst (requests.foldl (Played.step codec cancelled stream) p).session =
        ((withCodec Prod.fst p.session).calls codec stream cancelled requests).2 ∧
      (requests.foldl (Played.step codec cancelled stream) p).returned =
        ((withCodec Prod.fst p.session).calls codec stream cancelled requests).1.foldl
          returnedAfter p.returned := by
  induction requests generalizing p with
  | nil => exact ⟨rfl, rfl⟩
  | cons request requests ih =>
      have hCall := call_answers stream cancelled (recorded_answers codec) p.session request
      have hNext := ih (p.step codec cancelled stream request)
      have hSession : withCodec Prod.fst (p.step codec cancelled stream request).session =
          ((withCodec Prod.fst p.session).call codec stream cancelled request).2 := by
        rw [hCall]
        rfl
      have hReturned : (p.step codec cancelled stream request).returned =
          returnedAfter p.returned
            ((withCodec Prod.fst p.session).call codec stream cancelled request).1 := by
        rw [hCall]
        rfl
      rw [hSession, hReturned] at hNext
      exact hNext

/-- In every run of calls on an opened session, with any codec: the packets of the
selected stream taken from the demuxer since the last seek are those the codec answered,
in order, and then the one still held; no packet follows a flush, which comes with
nothing held and is taken once at most; and the caller has exactly the frames the codec
gave since the seek, in order and numbered from zero in its epoch. -/
theorem calls_deliver (k : κ) (source : List (Demuxed π)) (requests : List (Call π)) :
    let played := requests.foldl (Played.step codec cancelled stream) (Played.opened k source)
    let plain := (FsSession.opened k source).calls codec stream cancelled requests
    withCodec Prod.fst played.session = plain.2 ∧ played.returned = returnedSince plain.1 ∧
      Delivered stream played.taken (returnedSince plain.1) played.session := by
  intro played plain
  have hPlain := run_answers stream codec cancelled requests (Played.opened k source)
  have hRun : Delivered stream played.taken played.returned played.session :=
    @Runs.run_invariant_of_step _ _ _
      (fun p : Played κ π => Delivered stream p.taken p.returned p.session)
      (fun p request h => step_delivered codec cancelled h request)
      _ (opened_delivered k source 0 0) requests
  have hReturned : played.returned = returnedSince plain.1 := hPlain.2
  refine ⟨hPlain.1, hReturned, ?_⟩
  rw [← hReturned]
  exact hRun

end FrameScope.Ports.DecodeDeliveryLaw
