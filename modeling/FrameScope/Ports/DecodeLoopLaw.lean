import FrameScope.Ports.DecodeLoop

/-!
# The decode loop ends, and so does the stream

The loop of `framescope_ffmpeg_next_frame` has no bound of its own.  It returns
because every further round uses something up: a pending packet, a packet of the
demuxer, or the one flush.  That takes a codec which accepts a packet once all its
output is read, as `avcodec_send_packet` promises.

After the flush the codec has frames left or is at its end, so the error for a codec
that asks for packets after it is never raised; and from the end on only a seek
gives frames again.
-/

namespace FrameScope.Ports.DecodeLoopLaw

open FrameScope.Ports.DecodeLoop

variable {κ π : Type}

/-- What the documentation of `avcodec_send_packet` and `avcodec_receive_frame` says of
a codec; `draining` is true of one that was flushed. -/
structure Documented (codec : Codec κ π) (draining : κ → Prop) : Prop where
  /-- Once all output is read, a packet is not put off. -/
  takes : ∀ k packet, (codec.receive k).1 = .error .again →
    (codec.send (codec.receive k).2 packet).1 ≠ some .again
  /-- No packet can be sent to a codec that was flushed, and to no other is this said. -/
  flushed : ∀ k packet, (codec.send k packet).1 = some .eof → draining k
  flushes : ∀ k, (codec.send k none).1 = none → draining (codec.send k none).2
  /-- A codec that was flushed does not ask for packets. -/
  drains : ∀ k, draining k → (codec.receive k).1 ≠ .error .again
  keeps : ∀ k, draining k → draining (codec.receive k).2
  /-- A codec that asks for packets was not flushed. -/
  asks : ∀ k, (codec.receive k).1 = .error .again → ¬ draining (codec.receive k).2
  /-- There is no frame after the end. -/
  ended : ∀ k, (codec.receive k).1 = .error .eof →
    (codec.receive (codec.receive k).2).1 = .error .eof

/-! ## The loop ends -/

variable (codec : Codec κ π) (stream : FsStream) (cancelled : Nat → Bool)

/-- A codec that takes a packet now. -/
def Ready (k : κ) : Prop :=
  ∀ packet, (codec.send k packet).1 ≠ some .again

/-- The packets of the selected stream among what the demuxer returned. -/
def selected (taken : List (Demuxed π)) : List π :=
  taken.filterMap fun demuxed =>
    match demuxed with
    | .packet packet =>
        if packet.streamIndex = stream.selectedStreamIndex then some packet.data else none
    | .failure _ => none

def readRest : Read π → List (Demuxed π)
  | .packet _ rest => rest
  | .eof rest => rest
  | .failure _ rest => rest

def readData : Read π → List π
  | .packet packet _ => [packet.data]
  | .eof _ => []
  | .failure _ _ => []

/-- What a read takes from the demuxer holds the packet it gives and no other one of
the selected stream. -/
theorem readSelected_split (source : List (Demuxed π)) :
    ∃ taken, source = taken ++ readRest (readSelected stream source) ∧
      selected stream taken = readData (readSelected stream source) := by
  induction source with
  | nil => exact ⟨[], rfl, rfl⟩
  | cons demuxed source ih =>
      cases demuxed with
      | failure error => cases error <;> exact ⟨[.failure _], rfl, rfl⟩
      | packet packet =>
          rw [readSelected]
          by_cases hSelected : packet.streamIndex = stream.selectedStreamIndex
          · rw [if_pos hSelected]
            exact ⟨[.packet packet], rfl, by simp [selected, hSelected, readData]⟩
          · rw [if_neg hSelected]
            obtain ⟨taken, hSource, hData⟩ := ih
            refine ⟨.packet packet :: taken, ?_, ?_⟩
            · rw [List.cons_append, ← hSource]
            · rw [← hData]
              simp [selected, hSelected]

theorem readSelected_length (source : List (Demuxed π)) :
    (readRest (readSelected stream source)).length + (readData
      (readSelected stream source)).length ≤ source.length := by
  obtain ⟨taken, hSource, hData⟩ := readSelected_split stream source
  have hLess : (selected stream taken).length ≤ taken.length := List.length_filterMap_le ..
  have hLength : source.length = taken.length + (readRest (readSelected stream source)).length :=
    (congrArg List.length hSource).trans List.length_append
  rw [hData] at hLess
  omega

variable {codec}

/-- A codec that is ready takes the packet, and nothing is pending after it. -/
theorem submitCurrentPacket_again {s : FsSession κ π} (hReady : Ready codec s.codec)
    (h : (submitCurrentPacket codec s).1 = .again) :
    (submitCurrentPacket codec s).2.packetPending = false ∧
      (submitCurrentPacket codec s).2.source = s.source ∧
      (submitCurrentPacket codec s).2.flushSent = s.flushSent := by
  have hTakes := hReady (s.packet.map AvPacket.data)
  unfold submitCurrentPacket at h ⊢
  split at h
  · exact ⟨rfl, rfl, rfl⟩
  · rename_i hSend
    simp [hSend] at hTakes
  · cases h
  · cases h

theorem sendFlush_again {s : FsSession κ π} (hReady : Ready codec s.codec)
    (h : (sendFlush codec s).1 = .again) :
    (sendFlush codec s).2.flushSent = true ∧
      (sendFlush codec s).2.source = s.source ∧
      (sendFlush codec s).2.packetPending = s.packetPending := by
  have hTakes := hReady none
  unfold sendFlush at h ⊢
  split at h
  · exact ⟨rfl, rfl, rfl⟩
  · rename_i hSend
    simp [hSend] at hTakes
  · cases h
  · cases h

/-- Feeding a codec that is ready uses up some of what is left. -/
theorem feed_rounds {s : FsSession κ π} (hReady : Ready codec s.codec)
    (hSent : s.flushSent = false) (h : (feed codec stream cancelled s).1 = .again) :
    (feed codec stream cancelled s).2.rounds < s.rounds := by
  unfold feed at h ⊢
  by_cases hPending : s.packetPending = true
  · rw [if_pos hPending] at h ⊢
    have hDone := submitCurrentPacket_again hReady h
    simp [FsSession.rounds, hDone.1, hDone.2.1, hDone.2.2, hPending]
  · rw [if_neg hPending] at h ⊢
    by_cases hEof : s.demuxEof = true
    · rw [if_pos hEof] at h ⊢
      have hDone := sendFlush_again hReady h
      simp [FsSession.rounds, hDone.1, hDone.2.1, hDone.2.2, hSent]
    · rw [if_neg hEof] at h ⊢
      split at h
      · rename_i packet rest hRead
        have hDone := submitCurrentPacket_again
          (s := { s with source := rest, packet := some packet }) hReady h
        have hLess := readSelected_length stream s.source
        rw [hRead] at hLess
        simp only [readRest, readData, List.length_singleton] at hLess
        rw [FsSession.rounds, FsSession.rounds, hDone.1, hDone.2.1, hDone.2.2]
        simp [hSent]
        omega
      · rename_i rest hRead
        have hDone := sendFlush_again
          (s := { s with source := rest, packet := none, demuxEof := true }) hReady h
        have hLess := readSelected_length stream s.source
        rw [hRead] at hLess
        simp only [readRest, readData, List.length_nil] at hLess
        rw [FsSession.rounds, FsSession.rounds, hDone.1, hDone.2.1, hDone.2.2]
        simp [hSent]
        omega
      · cases h

/-- A round that does not end the loop has read all output and uses something up. -/
theorem decodeRound_rounds
    (hTakes : ∀ k, (codec.receive k).1 = .error .again → Ready codec (codec.receive k).2)
    {s : FsSession κ π} (h : (decodeRound codec stream cancelled s).1 = none) :
    (decodeRound codec stream cancelled s).2.rounds < s.rounds := by
  unfold decodeRound at h ⊢
  by_cases hCancelled : cancelled s.polls = true
  · simp [hCancelled] at h
  · rw [if_neg hCancelled] at h ⊢
    split at h
    · cases h
    · cases h
    · rename_i k hReceive
      have hReady : Ready codec k := by
        have := hTakes s.codec
        rw [hReceive] at this
        exact this rfl
      by_cases hSent : s.flushSent = true
      · simp [hSent] at h
      · have hSent : s.flushSent = false := by simpa using hSent
        have hLess := feed_rounds stream cancelled
          (s := { s with codec := k, polls := s.polls + 1 }) hReady hSent
        rw [if_neg (by simp [hSent])] at h ⊢
        split at h
        · rename_i s' hFeed
          rw [hFeed] at hLess
          exact hLess rfl
        · cases h
        · cases h
    · cases h

/-- As many rounds as there is input left are enough, and more change nothing. -/
theorem nextFrameRounds_eq
    (hTakes : ∀ k, (codec.receive k).1 = .error .again → Ready codec (codec.receive k).2)
    {n m : Nat} {s : FsSession κ π} (hn : s.rounds < n) (hm : s.rounds < m) :
    (nextFrameRounds codec stream cancelled n s).1 ≠ none ∧
      nextFrameRounds codec stream cancelled n s =
        nextFrameRounds codec stream cancelled m s := by
  induction n generalizing m s with
  | zero => omega
  | succ n ih =>
      cases m with
      | zero => omega
      | succ m =>
          have hLess := decodeRound_rounds stream cancelled hTakes (s := s)
          rw [nextFrameRounds, nextFrameRounds]
          cases hRound : decodeRound codec stream cancelled s with
          | mk answer s' =>
              rw [hRound] at hLess
              cases answer with
              | none =>
                  have hLess : s'.rounds < s.rounds := hLess rfl
                  exact ih (by omega) (by omega)
              | some answer => exact ⟨by simp, rfl⟩

theorem Documented.ready {draining : κ → Prop} (hCodec : Documented codec draining) (k : κ)
    (h : (codec.receive k).1 = .error .again) : Ready codec (codec.receive k).2 :=
  fun packet => hCodec.takes k packet h

/-! ## The end of the stream -/

variable {draining : κ → Prop}

/-- The error of the source for a codec that asks for packets after the flush. -/
def askedAfterFlush : FsError :=
  ⟨.decoder, some .again, "decoder requested more packets after end-of-stream flush"⟩

def cancelledDecoding : FsError :=
  ⟨.cancelled, some .exit, "video decoding was cancelled"⟩

/-- The codec was fed, or feeding it failed for a reason of its own. -/
def Fed.Plain (fed : Fed) : Prop :=
  fed ≠ .endOfStream ∧ fed ≠ .error askedAfterFlush

/-- The flush is remembered as long as the codec is drained. -/
def Remembers (draining : κ → Prop) (s : FsSession κ π) : Prop :=
  s.flushSent = true → draining s.codec

/-- The codec is at its end. -/
def Finished (codec : Codec κ π) (s : FsSession κ π) : Prop :=
  (codec.receive s.codec).1 = .error .eof

theorem submitCurrentPacket_plain (codec : Codec κ π) (s : FsSession κ π) :
    Fed.Plain (submitCurrentPacket codec s).1 ∧
      (submitCurrentPacket codec s).2.flushSent = s.flushSent := by
  unfold submitCurrentPacket
  split <;> simp [Fed.Plain, askedAfterFlush]

/-- The flush of a codec that was not flushed before is accepted or fails, and is
remembered exactly when it is accepted. -/
theorem sendFlush_remembers (hCodec : Documented codec draining) {s : FsSession κ π}
    (hSent : s.flushSent = false) (hOpen : ¬ draining s.codec) :
    Fed.Plain (sendFlush codec s).1 ∧ Remembers draining (sendFlush codec s).2 := by
  have hFlushed := hCodec.flushed s.codec none
  have hFlushes := hCodec.flushes s.codec
  unfold sendFlush
  cases hSend : codec.send s.codec none with
  | mk error k =>
      rw [hSend] at hFlushed hFlushes
      cases error with
      | none => exact ⟨by simp [Fed.Plain], fun _ => hFlushes rfl⟩
      | some error =>
          have hNever : ∀ s' : FsSession κ π, s'.flushSent = s.flushSent →
              Remembers draining s' := by
            intro s' hSame h
            rw [hSame, hSent] at h
            cases h
          cases error with
          | eof => exact absurd (hFlushed rfl) hOpen
          | again => exact ⟨by simp [Fed.Plain, askedAfterFlush], hNever _ rfl⟩
          | invalidData => exact ⟨by simp [Fed.Plain, askedAfterFlush], hNever _ rfl⟩
          | exit => exact ⟨by simp [Fed.Plain, askedAfterFlush], hNever _ rfl⟩
          | other code => exact ⟨by simp [Fed.Plain, askedAfterFlush], hNever _ rfl⟩

theorem feed_remembers (hCodec : Documented codec draining) {s : FsSession κ π}
    (hSent : s.flushSent = false) (hOpen : ¬ draining s.codec) :
    Fed.Plain (feed codec stream cancelled s).1 ∧
      Remembers draining (feed codec stream cancelled s).2 := by
  have hSubmit : ∀ s' : FsSession κ π, s'.flushSent = false →
      Fed.Plain (submitCurrentPacket codec s').1 ∧
        Remembers draining (submitCurrentPacket codec s').2 := by
    intro s' hSent'
    have hSame := submitCurrentPacket_plain codec s'
    refine ⟨hSame.1, fun h => ?_⟩
    rw [hSame.2, hSent'] at h
    cases h
  unfold feed
  by_cases hPending : s.packetPending = true
  · rw [if_pos hPending]
    exact hSubmit s hSent
  · rw [if_neg hPending]
    by_cases hEof : s.demuxEof = true
    · rw [if_pos hEof]
      exact sendFlush_remembers hCodec hSent hOpen
    · rw [if_neg hEof]
      split
      · exact hSubmit _ hSent
      · exact sendFlush_remembers hCodec hSent hOpen
      · rename_i error rest _
        refine ⟨⟨by simp, ?_⟩, fun h => ?_⟩
        · rw [readError, askedAfterFlush]
          split_ifs <;> simp
        · rw [show s.flushSent = false from hSent] at h
          cases h

/-- What a round does to a codec that keeps to its documentation: the flush is
remembered, the error for asking after it is not raised, and an end of the stream is
an end of the codec. -/
theorem decodeRound_remembers (hCodec : Documented codec draining) {s : FsSession κ π}
    (h : Remembers draining s) :
    Remembers draining (decodeRound codec stream cancelled s).2 ∧
      (decodeRound codec stream cancelled s).1 ≠ some (.error askedAfterFlush) ∧
      ((decodeRound codec stream cancelled s).1 = some .endOfStream →
        Finished codec (decodeRound codec stream cancelled s).2) := by
  have hKeeps : s.flushSent = true → draining (codec.receive s.codec).2 :=
    fun hSent => hCodec.keeps _ (h hSent)
  have hDrains : s.flushSent = true → (codec.receive s.codec).1 ≠ .error .again :=
    fun hSent => hCodec.drains _ (h hSent)
  have hAsks := hCodec.asks s.codec
  have hEnded := hCodec.ended s.codec
  unfold decodeRound
  by_cases hCancelled : cancelled s.polls = true
  · rw [if_pos hCancelled]
    exact ⟨h, by simp [askedAfterFlush], by simp⟩
  · rw [if_neg hCancelled]
    cases hReceive : codec.receive s.codec with
    | mk received k =>
        rw [hReceive] at hKeeps hDrains hAsks hEnded
        cases received with
        | ok frame => exact ⟨hKeeps, by simp, by simp⟩
        | error error =>
            cases error with
            | again =>
                by_cases hSent : s.flushSent = true
                · exact absurd rfl (hDrains hSent)
                · have hFeed := feed_remembers stream cancelled
                    (s := { s with codec := k, polls := s.polls + 1 }) hCodec
                    (by simpa using hSent) (hAsks rfl)
                  dsimp only
                  rw [if_neg hSent]
                  cases hFed : feed codec stream cancelled
                      { s with codec := k, polls := s.polls + 1 } with
                  | mk fed s' =>
                      rw [hFed] at hFeed
                      cases fed with
                      | again => exact ⟨hFeed.2, by simp, by simp⟩
                      | endOfStream => exact absurd rfl hFeed.1.1
                      | error error =>
                          refine ⟨hFeed.2, fun h => ?_, by simp⟩
                          cases h
                          exact hFeed.1.2 rfl
            | eof => exact ⟨hKeeps, by simp, fun _ => hEnded rfl⟩
            | invalidData => exact ⟨hKeeps, by simp [receiveError, askedAfterFlush], by simp⟩
            | exit => exact ⟨hKeeps, by simp [receiveError, askedAfterFlush], by simp⟩
            | other code => exact ⟨hKeeps, by simp [receiveError, askedAfterFlush], by simp⟩

/-- A codec at its end stays there, and a round says so or is cancelled. -/
theorem decodeRound_finished (hCodec : Documented codec draining) {s : FsSession κ π}
    (h : Finished codec s) :
    Finished codec (decodeRound codec stream cancelled s).2 ∧
      ((decodeRound codec stream cancelled s).1 = some .endOfStream ∨
        (decodeRound codec stream cancelled s).1 = some (.error cancelledDecoding)) := by
  have hEnded := hCodec.ended s.codec h
  rw [Finished] at h
  unfold decodeRound
  by_cases hCancelled : cancelled s.polls = true
  · rw [if_pos hCancelled]
    exact ⟨h, Or.inr rfl⟩
  · rw [if_neg hCancelled]
    cases hReceive : codec.receive s.codec with
    | mk received k =>
        rw [hReceive] at h hEnded
        cases h
        exact ⟨hEnded, Or.inl rfl⟩

/-- The loop does what its rounds do. -/
theorem nextFrameRounds_remembers (hCodec : Documented codec draining) {n : Nat}
    {s : FsSession κ π} (h : Remembers draining s) :
    Remembers draining (nextFrameRounds codec stream cancelled n s).2 ∧
      (nextFrameRounds codec stream cancelled n s).1 ≠ some (.error askedAfterFlush) ∧
      ((nextFrameRounds codec stream cancelled n s).1 = some .endOfStream →
        Finished codec (nextFrameRounds codec stream cancelled n s).2) := by
  induction n generalizing s with
  | zero => exact ⟨h, by simp [nextFrameRounds], by simp [nextFrameRounds]⟩
  | succ n ih =>
      have hRound := decodeRound_remembers stream cancelled hCodec h
      rw [nextFrameRounds]
      cases hDone : decodeRound codec stream cancelled s with
      | mk answer s' =>
          rw [hDone] at hRound
          cases answer with
          | none => exact ih hRound.1
          | some answer => exact hRound

theorem nextFrame_finished (hCodec : Documented codec draining) {s : FsSession κ π}
    (h : Finished codec s) :
    Finished codec (nextFrame codec stream cancelled s).2 ∧
      ((nextFrame codec stream cancelled s).1 = some .endOfStream ∨
        (nextFrame codec stream cancelled s).1 = some (.error cancelledDecoding)) := by
  have hRound := decodeRound_finished stream cancelled hCodec h
  rw [nextFrame, nextFrameRounds]
  cases hDone : decodeRound codec stream cancelled s with
  | mk answer s' =>
      rw [hDone] at hRound
      cases answer with
      | none => simp at hRound
      | some answer => exact hRound

/-- A seek that fails moves the demuxer at most. -/
theorem seekUs_failed {s : FsSession κ π} {timestampUs : Int} {failure : Option AvError}
    {source : List (Demuxed π)}
    (h : (seekUs codec stream cancelled s timestampUs failure source).1 ≠ none) :
    ∃ source' polls, (seekUs codec stream cancelled s timestampUs failure source).2 =
      { s with source := source', polls := polls } := by
  unfold seekUs at h ⊢
  split_ifs at h ⊢
  · exact ⟨_, _, rfl⟩
  · exact ⟨_, _, rfl⟩
  · exact ⟨_, _, rfl⟩
  · cases failure with
    | none => cases h rfl
    | some error => exact ⟨_, _, rfl⟩

/-- A seek that succeeds has sent no flush. -/
theorem seekUs_sought {s : FsSession κ π} {timestampUs : Int} {failure : Option AvError}
    {source : List (Demuxed π)}
    (h : (seekUs codec stream cancelled s timestampUs failure source).1 = none) :
    (seekUs codec stream cancelled s timestampUs failure source).2 =
      { FsSession.opened (codec.flushBuffers s.codec) source with
        epoch := (s.epoch + 1) % 2 ^ 64, polls := s.polls + 1 } := by
  unfold seekUs at h ⊢
  split_ifs at h ⊢ with hNegative hCancelled hBase
  cases failure with
  | none => rfl
  | some error => cases h

/-! ## Runs of calls -/

/-- The call returned, and the codec was not asked to take packets after its flush. -/
def Returned : Answer → Prop
  | .frame answer => answer ≠ none ∧ answer ≠ some (.error askedAfterFlush)
  | .sought _ => True

/-- The stream is over, unless the caller cancelled. -/
def SaysEnd : Answer → Prop
  | .frame answer => answer = some .endOfStream ∨ answer = some (.error cancelledDecoding)
  | .sought _ => True

theorem call_remembers (hCodec : Documented codec draining) {s : FsSession κ π}
    (h : Remembers draining s) (request : Call π) :
    Remembers draining (s.call codec stream cancelled request).2 ∧
      Returned (s.call codec stream cancelled request).1 := by
  cases request with
  | nextFrame =>
      have hLoop := nextFrameRounds_remembers stream cancelled
        (n := s.rounds + 1) hCodec h
      have hReturns := nextFrameRounds_eq stream cancelled
        (n := s.rounds + 1) (m := s.rounds + 1) (s := s) hCodec.ready (by omega) (by omega)
      exact ⟨hLoop.1, hReturns.1, hLoop.2.1⟩
  | seekUs timestampUs failure source =>
      refine ⟨?_, trivial⟩
      show Remembers draining (seekUs codec stream cancelled s timestampUs failure source).2
      intro hSent
      by_cases hFailed : (seekUs codec stream cancelled s timestampUs failure source).1 = none
      · rw [seekUs_sought stream cancelled hFailed] at hSent
        cases hSent
      · obtain ⟨source', polls, hSame⟩ := seekUs_failed stream cancelled hFailed
        rw [hSame] at hSent ⊢
        exact h hSent

theorem call_finished (hCodec : Documented codec draining) {s : FsSession κ π}
    (h : Finished codec s) {request : Call π}
    (hSeek : (s.call codec stream cancelled request).1 ≠ .sought none) :
    Finished codec (s.call codec stream cancelled request).2 ∧
      SaysEnd (s.call codec stream cancelled request).1 := by
  cases request with
  | nextFrame => exact nextFrame_finished stream cancelled hCodec h
  | seekUs timestampUs failure source =>
      refine ⟨?_, trivial⟩
      have hFailed : (seekUs codec stream cancelled s timestampUs failure source).1 ≠ none := by
        intro hNone
        apply hSeek
        simp [FsSession.call, hNone]
      obtain ⟨source', polls, hSame⟩ := seekUs_failed stream cancelled hFailed
      show Finished codec (seekUs codec stream cancelled s timestampUs failure source).2
      rw [hSame]
      exact h

theorem calls_remember (hCodec : Documented codec draining) {s : FsSession κ π}
    (h : Remembers draining s) (requests : List (Call π)) :
    Remembers draining (s.calls codec stream cancelled requests).2 ∧
      ∀ answer ∈ (s.calls codec stream cancelled requests).1, Returned answer := by
  induction requests generalizing s with
  | nil => exact ⟨h, by simp [FsSession.calls]⟩
  | cons request requests ih =>
      have hCall := call_remembers stream cancelled hCodec h request
      have hRest := ih hCall.1
      refine ⟨hRest.1, fun answer hAnswer => ?_⟩
      cases List.mem_cons.1 hAnswer with
      | inl hHead =>
          rw [hHead]
          exact hCall.2
      | inr hTail => exact hRest.2 answer hTail

theorem calls_finished (hCodec : Documented codec draining) {s : FsSession κ π}
    (h : Finished codec s) {requests : List (Call π)}
    (hSeek : Answer.sought none ∉ (s.calls codec stream cancelled requests).1) :
    ∀ answer ∈ (s.calls codec stream cancelled requests).1, SaysEnd answer := by
  induction requests generalizing s with
  | nil => simp [FsSession.calls]
  | cons request requests ih =>
      have hParts : Answer.sought none ∉
          (s.call codec stream cancelled request).1 ::
            ((s.call codec stream cancelled request).2.calls codec stream cancelled
              requests).1 := hSeek
      rw [List.mem_cons] at hParts
      have hCall := call_finished stream cancelled hCodec h
        (fun hNone => hParts (Or.inl hNone.symm))
      intro answer hAnswer
      cases List.mem_cons.1 hAnswer with
      | inl hHead =>
          rw [hHead]
          exact hCall.2
      | inr hTail => exact ih hCall.1 (fun hNone => hParts (Or.inr hNone)) answer hTail

/-- With a codec that keeps to its documentation every call returns, in every run of
calls of an opened session, and no call reports a codec that asks for packets after its
flush.  Once a call says the stream has ended, every later one says the same or that it
was cancelled, until a seek succeeds. -/
theorem calls_return_and_end (hCodec : Documented codec draining) (k : κ)
    (source : List (Demuxed π)) (requests later : List (Call π)) :
    let played := (FsSession.opened k source).calls codec stream cancelled requests
    let last := nextFrame codec stream cancelled played.2
    let after := last.2.calls codec stream cancelled later
    (∀ answer ∈ played.1, Returned answer) ∧
      (last.1 = some .endOfStream → Answer.sought none ∉ after.1 →
        ∀ answer ∈ after.1, SaysEnd answer) := by
  have hOpened : Remembers draining (FsSession.opened k source : FsSession κ π) := by
    intro hSent
    cases hSent
  have hPlayed := calls_remember stream cancelled hCodec hOpened
    requests
  refine ⟨hPlayed.2, fun hLast hSeek => ?_⟩
  have hFinished := (nextFrameRounds_remembers stream cancelled
    hCodec hPlayed.1).2.2 hLast
  exact calls_finished stream cancelled hCodec hFinished hSeek

/-- A codec that gives one frame for each packet, and knows whether it was flushed. -/
def frameForPacket : Codec (Nat × Bool) Nat where
  send
    | (waiting, true), _ => (some .eof, (waiting, true))
    | (waiting, false), none => (none, (waiting, true))
    | (waiting, false), some _ =>
        if waiting = 0 then (none, (1, false)) else (some .again, (waiting, false))
  receive
    | (0, true) => (.error .eof, (0, true))
    | (0, false) => (.error .again, (0, false))
    | (waiting + 1, flushed) =>
        (.ok ⟨some 0, none, 0, false, false, 0, 1, 1, 0⟩, (waiting, flushed))
  flushBuffers _ := (0, false)

theorem frameForPacket_documented : Documented frameForPacket (fun k => k.2 = true) where
  takes k packet h := by
    cases k with
    | mk waiting flushed =>
        cases waiting <;> cases flushed <;> cases packet <;> simp_all [frameForPacket]
  flushed k packet h := by
    cases k with
    | mk waiting flushed =>
        cases flushed <;> cases packet <;> simp_all [frameForPacket]
        split at h <;> simp_all
  flushes k h := by
    cases k with
    | mk waiting flushed => cases flushed <;> simp_all [frameForPacket]
  drains k h := by
    cases k with
    | mk waiting flushed => cases waiting <;> simp_all [frameForPacket]
  keeps k h := by
    cases k with
    | mk waiting flushed => cases waiting <;> simp_all [frameForPacket]
  asks k h := by
    cases k with
    | mk waiting flushed => cases waiting <;> cases flushed <;> simp_all [frameForPacket]
  ended k h := by
    cases k with
    | mk waiting flushed => cases waiting <;> cases flushed <;> simp_all [frameForPacket]

/-- Two packets of the stream and one of another give two frames and the end. -/
theorem two_frames_and_end :
    let played := (FsSession.opened (0, false)
      [.packet ⟨0, 7⟩, .packet ⟨1, 8⟩, .packet ⟨0, 9⟩]).calls frameForPacket ⟨0, 1, 25⟩
        (fun _ => false) [.nextFrame, .nextFrame]
    let last := nextFrame frameForPacket ⟨0, 1, 25⟩ (fun _ => false) played.2
    let after := last.2.calls frameForPacket ⟨0, 1, 25⟩ (fun _ => false) [.nextFrame]
    last.1 = some .endOfStream ∧ (∀ answer ∈ played.1, Returned answer) ∧
      ∀ answer ∈ after.1, SaysEnd answer := by
  intro played last after
  have hLast : last.1 = some .endOfStream := by decide
  have hSeek : Answer.sought none ∉ after.1 := by decide
  have hRuns := calls_return_and_end ⟨0, 1, 25⟩ (fun _ => false) frameForPacket_documented
    (0, false) [.packet ⟨0, 7⟩, .packet ⟨1, 8⟩, .packet ⟨0, 9⟩] [.nextFrame, .nextFrame]
    [.nextFrame]
  exact ⟨hLast, hRuns.1, hRuns.2 hLast hSeek⟩

end FrameScope.Ports.DecodeLoopLaw
