import SnakePosix.Libsnake.SocketCalls

/-! What comes of a message that is read or written in several pieces. Both loops
start again at the beginning of their buffer for every piece, and the reading one
goes on after the stream has ended. -/
namespace SnakePosix.SocketPieces
open Pieces ReadPrograms Wire

variable {socket after : ReadSide} {buffer final : List UInt8} {rounds total readBytes : Nat}
  {program : ReadProgram SocketMessage} {memory : Nat → UInt8}

/-! ## Reading -/

/-- The sizes of the pieces in which the next bytes are read. -/
def readSizes (socket : ReadSide) (count : Nat) : List Nat :=
  pieceSizes (fun call => (socket.answers call).getD 0) socket.calls count

/-- The socket once the next bytes have been read. -/
def advanced (socket : ReadSide) (count : Nat) : ReadSide :=
  { socket with stream := socket.stream.drop count, calls := socket.calls + (readSizes socket count).length }

/-- What a buffer holds once the next bytes have been read into it. -/
def piled (socket : ReadSide) (buffer : List UInt8) : List UInt8 :=
  pile buffer (cut (readSizes socket buffer.length) socket.stream)

/-- No call fails. -/
def Reliable (socket : ReadSide) : Prop := ∀ call, (socket.answers call).isSome

/-- The socket after one answered call. -/
def called (socket : ReadSide) (size : Nat) : ReadSide :=
  { socket with stream := socket.stream.drop size, calls := socket.calls + 1 }

private theorem reliable_called (reliable : Reliable socket) (size : Nat) : Reliable (called socket size) :=
  reliable

private theorem readLoop_step (unread : readBytes < total) (answered : socket.answers socket.calls = some draw) :
    socketReadLoop total (rounds + 1) socket readBytes buffer =
      socketReadLoop total rounds (called socket (1 + draw % (total - readBytes)))
        (readBytes + (socket.stream.take (1 + draw % (total - readBytes))).length)
        (overwrite buffer 0 (socket.stream.take (1 + draw % (total - readBytes)))) := by
  rw [socketReadLoop, if_pos unread]
  simp only [ReadSide.read, answered]
  rfl

private theorem readLoop_done (read : total ≤ readBytes) :
    socketReadLoop total (rounds + 1) socket readBytes buffer = some (true, buffer, socket) := by
  rw [socketReadLoop, if_neg (Nat.not_lt.mpr read)]

private theorem readSizes_step (positive : 0 < count) (answered : socket.answers socket.calls = some draw) :
    readSizes socket count = (1 + draw % count) ::
      readSizes (called socket (1 + draw % count)) (count - (1 + draw % count)) := by
  rw [readSizes, pieceSizes_step positive, answered]
  rfl

/-- A loop that returns true has been given every byte. -/
private theorem readLoop_enough
    (ran : socketReadLoop total rounds socket readBytes buffer = some (true, final, after)) :
    total - readBytes ≤ socket.stream.length := by
  induction rounds generalizing socket readBytes buffer with
  | zero => cases ran
  | succ rounds ih =>
    rcases Nat.lt_or_ge readBytes total with unread | read
    · cases answered : socket.answers socket.calls with
      | none =>
        rw [socketReadLoop, if_pos unread] at ran
        simp [ReadSide.read, answered] at ran
      | some draw =>
        rw [readLoop_step unread answered, List.length_take] at ran
        have later := ih ran
        simp only [called, List.length_drop] at later
        omega
    · omega

/-- And it has copied every piece to the start of the buffer. -/
private theorem readLoop_true (ran : socketReadLoop total rounds socket readBytes buffer = some (true, final, after)) :
    final = pile buffer (cut (readSizes socket (total - readBytes)) socket.stream) ∧
      after = advanced socket (total - readBytes) := by
  induction rounds generalizing socket readBytes buffer with
  | zero => cases ran
  | succ rounds ih =>
    rcases Nat.lt_or_ge readBytes total with unread | read
    · have positive : 0 < total - readBytes := by omega
      have enough := readLoop_enough ran
      cases answered : socket.answers socket.calls with
      | none =>
        rw [socketReadLoop, if_pos unread] at ran
        simp [ReadSide.read, answered] at ran
      | some draw =>
        have bound := size_le positive draw
        have length : (socket.stream.take (1 + draw % (total - readBytes))).length =
            1 + draw % (total - readBytes) := List.length_take_of_le (by omega)
        have left : total - (readBytes + (1 + draw % (total - readBytes))) =
            total - readBytes - (1 + draw % (total - readBytes)) := by omega
        rw [readLoop_step unread answered, length] at ran
        obtain ⟨copied, arrived⟩ := ih ran
        rw [left] at copied arrived
        constructor
        · rw [copied, readSizes_step positive answered]
          rfl
        · rw [arrived, advanced, advanced, readSizes_step positive answered]
          simp only [called, List.drop_drop, List.length_cons, ReadSide.mk.injEq, true_and]
          constructor
          · congr 1
            omega
          · omega
    · rw [readLoop_done read] at ran
      cases ran
      have nothing : total - readBytes = 0 := by omega
      simp [nothing, readSizes, pieceSizes_done, advanced, cut, pile]

/-- A call that returns true was given all its bytes and leaves them piled up. -/
theorem socketRead_true (ran : socketReadCalls rounds socket buffer = some (true, final, after)) :
    buffer.length ≤ socket.stream.length ∧ final = piled socket buffer ∧ after = advanced socket buffer.length :=
  ⟨readLoop_enough ran, readLoop_true ran⟩

/-- Where the stream is long enough and no call fails, the loop ends. -/
private theorem readLoop_returns (reliable : Reliable socket) (readBytes : Nat) (buffer : List UInt8)
    (enough : total - readBytes ≤ socket.stream.length) (long : total - readBytes < rounds) :
    ∃ final after, socketReadLoop total rounds socket readBytes buffer = some (true, final, after) := by
  induction rounds generalizing socket readBytes buffer with
  | zero => omega
  | succ rounds ih =>
    rcases Nat.lt_or_ge readBytes total with unread | read
    · obtain ⟨draw, answered⟩ := Option.isSome_iff_exists.mp (reliable socket.calls)
      have bound := size_le (show 0 < total - readBytes by omega) draw
      have length : (socket.stream.take (1 + draw % (total - readBytes))).length =
          1 + draw % (total - readBytes) := List.length_take_of_le (by omega)
      rw [readLoop_step unread answered, length]
      refine ih (reliable_called reliable _) _ _ ?_ (by omega)
      simp only [called, List.length_drop]
      omega
    · exact ⟨buffer, socket, readLoop_done read⟩

/-- Where it is too short, the loop goes round for ever at its end. -/
private theorem readLoop_starves (reliable : Reliable socket) (buffer : List UInt8) (read : readBytes ≤ total)
    (short : socket.stream.length < total - readBytes) (rounds : Nat) :
    socketReadLoop total rounds socket readBytes buffer = none := by
  induction rounds generalizing socket readBytes buffer with
  | zero => rfl
  | succ rounds ih =>
    obtain ⟨draw, answered⟩ := Option.isSome_iff_exists.mp (reliable socket.calls)
    have bound := size_le (show 0 < total - readBytes by omega) draw
    rw [readLoop_step (by omega) answered]
    have taken : (socket.stream.take (1 + draw % (total - readBytes))).length =
        min (1 + draw % (total - readBytes)) socket.stream.length := List.length_take
    refine ih (reliable_called reliable _) _ (by omega) ?_
    simp only [called, List.length_drop]
    omega

/-- More rounds change nothing for a loop that has returned. -/
private theorem readLoop_more {outcome : Bool × List UInt8 × ReadSide} (above : rounds ≤ more)
    (ran : socketReadLoop total rounds socket readBytes buffer = some outcome) :
    socketReadLoop total more socket readBytes buffer = some outcome := by
  induction rounds generalizing more socket readBytes buffer with
  | zero => cases ran
  | succ rounds ih =>
    obtain ⟨more, rfl⟩ : ∃ less, more = less + 1 := ⟨more - 1, by omega⟩
    rcases Nat.lt_or_ge readBytes total with unread | read
    · cases answered : socket.answers socket.calls with
      | none =>
        rw [socketReadLoop, if_pos unread] at ran ⊢
        simp only [ReadSide.read, answered] at ran ⊢
        exact ran
      | some draw =>
        rw [readLoop_step unread answered] at ran ⊢
        exact ih (by omega) ran
    · rw [readLoop_done read] at ran ⊢
      exact ran

/-- Nor for a message that has been read. -/
theorem reads_more {outcome : Option SocketMessage × ReadSide} (above : rounds ≤ more)
    (ran : socketMessageReadCalls memory rounds program socket = some outcome) :
    socketMessageReadCalls memory more program socket = some outcome := by
  induction program generalizing socket with
  | done result => exact ran
  | read length next ih =>
    rw [socketMessageReadCalls] at ran ⊢
    cases read : socketReadCalls rounds socket ((List.range length).map memory) with
    | none =>
      rw [read] at ran
      cases ran
    | some answer =>
      obtain ⟨result, buffer, left⟩ := answer
      have again : socketReadCalls more socket ((List.range length).map memory) = some (result, buffer, left) :=
        readLoop_more above read
      rw [read] at ran
      rw [again]
      cases result with
      | false => exact ran
      | true => exact ih buffer ran

/-- A call that returns true leaves the buffer with the bytes in order exactly when
every piece, copied to the start, leaves each place with its own byte. -/
theorem socketRead_inOrder_iff (socket : ReadSide) (buffer : List UInt8) (rounds : Nat)
    (enough : buffer.length ≤ socket.stream.length)
    (ran : socketReadCalls rounds socket buffer = some (true, final, after)) :
    final = socket.stream.take buffer.length ↔
      InPlace buffer socket.stream (readSizes socket buffer.length) := by
  have sum : (readSizes socket buffer.length).sum = buffer.length := pieceSizes_sum _ _ _
  rw [(socketRead_true ran).2.1]
  exact pile_iff sum.le enough

/-- A PLAYER_STATE body of two bytes that arrive one at a time. -/
def twoPieces : ReadSide where
  stream := [1, 3]
  answers := fun _ => some 0
  calls := 0

/-- The second byte lands on the first, and the second place keeps what was there. -/
theorem socketRead_twoPieces : ∃ after,
    socketReadCalls 3 twoPieces [0, 0] = some (true, [3, 0], after) ∧
      [3, 0] ≠ twoPieces.stream.take 2 := ⟨_, rfl, by decide⟩

theorem socketRead_inOrder_iff_onePiece :
    ∃ final after, socketReadCalls 2 { twoPieces with answers := fun _ => some 1 } [0, 0] =
      some (true, final, after) ∧ final = twoPieces.stream.take 2 := by
  refine ⟨_, _, rfl, (socketRead_inOrder_iff { twoPieces with answers := fun _ => some 1 } [0, 0] 2
    (by decide) rfl).mpr ?_⟩
  have sizes : readSizes { twoPieces with answers := fun _ => some 1 } 2 = [2] := by
    simp [readSizes, twoPieces, pieceSizes]
  exact sizes ▸ inPlace_single [0, 0] _

/-! ## Writing -/

/-- The sizes of the pieces in which the next bytes are accepted. -/
def writeSizes (socket : WriteSide) (count : Nat) : List Nat :=
  pieceSizes (fun call => (socket.answers call).getD 0) socket.calls count

/-- The socket after one answered call. -/
def offered (socket : WriteSide) (bytes : List UInt8) : WriteSide :=
  { socket with accepted := socket.accepted ++ bytes, calls := socket.calls + 1 }

private theorem writeLoop_step {socket : WriteSide} (unsent : written < buffer.length)
    (answered : socket.answers socket.calls = some draw) :
    socketWriteLoop buffer (rounds + 1) socket written =
      socketWriteLoop buffer rounds (offered socket (buffer.take (1 + draw % (buffer.length - written))))
        (written + (1 + draw % (buffer.length - written))) := by
  have bound := size_le (show 0 < buffer.length - written by omega) draw
  have length : (buffer.take (buffer.length - written)).length = buffer.length - written :=
    List.length_take_of_le (by omega)
  rw [socketWriteLoop, if_pos unsent]
  simp only [WriteSide.write, answered, length, List.take_take, Nat.min_eq_left bound]
  rfl

private theorem writeSizes_step {socket : WriteSide} (positive : 0 < count)
    (answered : socket.answers socket.calls = some draw) :
    writeSizes socket count = (1 + draw % count) ::
      writeSizes (offered socket (buffer.take (1 + draw % count))) (count - (1 + draw % count)) := by
  rw [writeSizes, pieceSizes_step positive, answered]
  rfl

/-- Every call hands over the beginning of the buffer. -/
private theorem writeLoop_true {socket after : WriteSide} (written : Nat)
    (ran : socketWriteLoop buffer rounds socket written = some (true, after)) :
    after.accepted = socket.accepted ++
      ((writeSizes socket (buffer.length - written)).map buffer.take).flatten := by
  induction rounds generalizing socket written with
  | zero => cases ran
  | succ rounds ih =>
    rcases Nat.lt_or_ge written buffer.length with unsent | sent
    · have positive : 0 < buffer.length - written := by omega
      cases answered : socket.answers socket.calls with
      | none =>
        rw [socketWriteLoop, if_pos unsent] at ran
        simp [WriteSide.write, answered] at ran
      | some draw =>
        rw [writeLoop_step unsent answered] at ran
        have left : buffer.length - (written + (1 + draw % (buffer.length - written))) =
            buffer.length - written - (1 + draw % (buffer.length - written)) := by omega
        have later := ih _ ran
        rw [left] at later
        rw [later, writeSizes_step positive answered, List.map_cons, List.flatten_cons, ← List.append_assoc]
        rfl
    · rw [socketWriteLoop, if_neg (Nat.not_lt.mpr sent)] at ran
      cases ran
      have nothing : buffer.length - written = 0 := by omega
      simp [nothing, writeSizes, pieceSizes_done]

/-- A call that returns true has handed over the buffer exactly when every piece of
it is what it begins with. -/
theorem socketWrite_unchanged_iff (socket after : WriteSide) (buffer : List UInt8) (rounds : Nat)
    (ran : socketWriteCalls rounds socket buffer = some (true, after)) :
    after.accepted = socket.accepted ++ buffer ↔ Repeats (writeSizes socket buffer.length) buffer := by
  have sum : (writeSizes socket buffer.length).sum = buffer.length := pieceSizes_sum _ _ _
  rw [writeLoop_true 0 ran, Nat.sub_zero, List.append_cancel_left_eq]
  exact resent_iff sum

/-- A kernel that takes one byte and then the rest. -/
def oneThenRest : WriteSide where
  accepted := []
  answers := some
  calls := 0

/-- A PLAYER_STATE message goes out with its type twice and without its direction. -/
theorem socketWrite_oneThenRest : ∃ after,
    socketMessageSerializeToSocket 3 (socketMessageInitPlayerState .playing .right) oneThenRest =
      some (true, after) ∧
    after.accepted ≠ socketMessageSerialize (socketMessageInitPlayerState .playing .right) :=
  ⟨_, rfl, by decide⟩

theorem socketWrite_unchanged_iff_onePiece : ∃ after,
    socketWriteCalls 2 { oneThenRest with answers := fun _ => some 2 } [5, 1, 3] = some (true, after) ∧
      after.accepted = [5, 1, 3] := by
  refine ⟨_, rfl, (socketWrite_unchanged_iff { oneThenRest with answers := fun _ => some 2 } _
    [5, 1, 3] 2 rfl).mpr ?_⟩
  have sizes : writeSizes { oneThenRest with answers := fun _ => some 2 } 3 = [3] := by
    simp [writeSizes, oneThenRest, pieceSizes]
  exact sizes ▸ repeats_single [5, 1, 3]

/-! ## The end of the stream -/

/-- The stream has all the bytes the reads of a computation ask for, given what each
of them leaves in its buffer. -/
def Suffices (memory : Nat → UInt8) : ReadProgram SocketMessage → ReadSide → Prop
  | .done _, _ => True
  | .read length next, socket => length ≤ socket.stream.length ∧
    Suffices memory (next (piled socket ((List.range length).map memory))) (advanced socket length)

private theorem readLoop_reliable (reliable : Reliable socket)
    (ran : socketReadLoop total rounds socket readBytes buffer = some (result, final, after)) : result = true := by
  induction rounds generalizing socket readBytes buffer with
  | zero => cases ran
  | succ rounds ih =>
    rcases Nat.lt_or_ge readBytes total with unread | read
    · obtain ⟨draw, answered⟩ := Option.isSome_iff_exists.mp (reliable socket.calls)
      rw [readLoop_step unread answered] at ran
      exact ih (reliable_called reliable _) ran
    · rw [readLoop_done read] at ran
      cases ran
      rfl

/-- A call returns with the pieces piled up or is still running. -/
private theorem readCalls_cases (reliable : Reliable socket) (buffer : List UInt8) (rounds : Nat) :
    socketReadCalls rounds socket buffer = none ∨
      socketReadCalls rounds socket buffer = some (true, piled socket buffer, advanced socket buffer.length) := by
  cases ran : socketReadCalls rounds socket buffer with
  | none => exact Or.inl rfl
  | some outcome =>
    obtain ⟨result, final, after⟩ := outcome
    cases readLoop_reliable reliable ran
    obtain ⟨-, rfl, rfl⟩ := socketRead_true ran
    exact Or.inr rfl

private theorem readCalls_returns (reliable : Reliable socket) (buffer : List UInt8)
    (enough : buffer.length ≤ socket.stream.length)
    (long : buffer.length < rounds) :
    socketReadCalls rounds socket buffer = some (true, piled socket buffer, advanced socket buffer.length) := by
  obtain ⟨final, after, ran⟩ := readLoop_returns reliable 0 buffer enough long
  refine (readCalls_cases reliable buffer rounds).resolve_left fun running => ?_
  rw [socketReadCalls, ran] at running
  cases running

private theorem memory_length (memory : Nat → UInt8) (length : Nat) :
    ((List.range length).map memory).length = length := by simp

/-- Every read of a computation has its bytes, and leaves each of them in its own place. -/
def ReadsInPlace (memory : Nat → UInt8) : ReadProgram SocketMessage → ReadSide → Prop
  | .done _, _ => True
  | .read length next, socket => length ≤ socket.stream.length ∧
    InPlace ((List.range length).map memory) socket.stream (readSizes socket length) ∧
      ReadsInPlace memory (next (socket.stream.take length)) (advanced socket length)

/-- Such a computation reads what it does with exact reads. -/
theorem reads_inPlace (reliable : Reliable socket) (inPlace : ReadsInPlace memory program socket)
    (ran : socketMessageReadCalls memory rounds program socket = some (received, after)) :
    received.map (·, after.stream) = program.exact socket.stream := by
  induction program generalizing socket with
  | done result =>
    cases ran
    rfl
  | read length next ih =>
    obtain ⟨enough, here, later⟩ := inPlace
    have sizes : (readSizes socket length).sum = length := pieceSizes_sum _ _ _
    have exactly : readExactly socket.stream length = some (socket.stream.take length, socket.stream.drop length) :=
      if_pos enough
    have outcome := readCalls_cases reliable ((List.range length).map memory) rounds
    have inOrder : piled socket ((List.range length).map memory) = socket.stream.take length := by
      have filled := (pile_iff (by rw [memory_length]; exact sizes.le) (by rw [memory_length]; exact enough)).mpr here
      rw [memory_length] at filled
      rw [piled, memory_length]
      exact filled
    rw [memory_length, inOrder] at outcome
    rw [socketMessageReadCalls] at ran
    rw [ReadProgram.exact, exactly]
    rcases outcome with running | read
    · rw [running] at ran
      cases ran
    · rw [read] at ran
      have reliable' : Reliable (advanced socket length) := reliable
      exact ih _ reliable' later ran

private theorem reads_return (reliable : Reliable socket) (complete : Suffices memory program socket) :
    ∃ least result, ∀ rounds, least ≤ rounds →
      socketMessageReadCalls memory rounds program socket = some result := by
  induction program generalizing socket with
  | done result => exact ⟨0, (result, socket), fun _ _ => rfl⟩
  | read length next ih =>
    obtain ⟨enough, later⟩ := complete
    have reliable' : Reliable (advanced socket length) := reliable
    obtain ⟨least, result, returns⟩ := ih _ reliable' later
    refine ⟨max (length + 1) least, result, fun rounds long => ?_⟩
    have read := readCalls_returns reliable ((List.range length).map memory)
      (by rw [memory_length]; exact enough) (show _ < rounds by rw [memory_length]; omega)
    rw [memory_length] at read
    rw [socketMessageReadCalls, read]
    exact returns rounds (by omega)

private theorem reads_starve (reliable : Reliable socket) (short : ¬ Suffices memory program socket)
    (rounds : Nat) : socketMessageReadCalls memory rounds program socket = none := by
  induction program generalizing socket with
  | done result => exact absurd trivial short
  | read length next ih =>
    rw [socketMessageReadCalls]
    rcases Nat.lt_or_ge socket.stream.length length with starved | enough
    · have running : socketReadCalls rounds socket ((List.range length).map memory) = none := by
        refine readLoop_starves reliable _ (Nat.zero_le _) ?_ rounds
        rw [memory_length]
        exact starved
      rw [running]
    · have outcome := readCalls_cases reliable ((List.range length).map memory) rounds
      rw [memory_length] at outcome
      rcases outcome with running | read
      · rw [running]
      · rw [read]
        have reliable' : Reliable (advanced socket length) := reliable
        exact ih _ reliable' fun later => short ⟨enough, later⟩

/-- Where no call fails, reading into a buffer and reading a message come to an end,
and to the result false on a stream that is too short, exactly when the stream is not
too short: at its end both go on for ever. -/
theorem reading_ends_iff (socket : ReadSide) (reliable : ∀ call, (socket.answers call).isSome)
    (buffer : List UInt8) (memory : Nat → UInt8) :
    ((∃ rounds outcome, socketReadCalls rounds socket buffer = some outcome) ∧
        (socket.stream.length < buffer.length →
          ∃ rounds left, socketReadCalls rounds socket buffer = some (false, left)) ↔
      buffer.length ≤ socket.stream.length) ∧
    ((∃ rounds outcome, socketMessageDeserializeCalls memory rounds socket = some outcome) ∧
        (¬ Suffices memory socketMessageReads socket →
          ∃ rounds after, socketMessageDeserializeCalls memory rounds socket = some (none, after)) ↔
      Suffices memory socketMessageReads socket) := by
  constructor
  · constructor
    · rintro ⟨⟨rounds, outcome, ran⟩, -⟩
      by_contra short
      have running := readLoop_starves reliable buffer (Nat.zero_le _)
        (Nat.lt_of_not_le short) rounds
      rw [socketReadCalls, running] at ran
      cases ran
    · intro enough
      exact ⟨⟨_, _, readCalls_returns reliable buffer enough (Nat.lt_succ_self _)⟩,
        fun short => absurd enough (Nat.not_le.mpr short)⟩
  · constructor
    · rintro ⟨⟨rounds, outcome, ran⟩, -⟩
      by_contra short
      rw [socketMessageDeserializeCalls, reads_starve reliable short] at ran
      cases ran
    · intro complete
      obtain ⟨least, result, returns⟩ := reads_return reliable complete
      exact ⟨⟨least, result, returns least (Nat.le_refl _)⟩, fun short => absurd complete short⟩

/-! ## A call that fails -/

/-- Where a call will fail, the loop ends there, or earlier with all its bytes. -/
private theorem readLoop_fails (total readBytes : Nat) (buffer : List UInt8) (failing : socket.answers call = none)
    (ahead : socket.calls ≤ call) (soon : call < socket.calls + rounds) :
    ∃ result final after, socketReadLoop total rounds socket readBytes buffer = some (result, final, after) ∧
      (result = true → after.answers = socket.answers ∧ socket.calls ≤ after.calls ∧ after.calls ≤ call) := by
  induction rounds generalizing socket readBytes buffer with
  | zero => omega
  | succ rounds ih =>
    rcases Nat.lt_or_ge readBytes total with unread | read
    · cases answered : socket.answers socket.calls with
      | none =>
        rw [socketReadLoop, if_pos unread]
        simp only [ReadSide.read, answered]
        exact ⟨false, _, _, rfl, nofun⟩
      | some draw =>
        rw [readLoop_step unread answered]
        have later : socket.calls ≠ call := by
          rintro rfl
          rw [failing] at answered
          cases answered
        have failing' : (called socket (1 + draw % (total - readBytes))).answers call = none := failing
        obtain ⟨result, final, after, ran, goes⟩ := ih _ _ failing' (show socket.calls + 1 ≤ call by omega)
          (show call < socket.calls + 1 + rounds by omega)
        refine ⟨result, final, after, ran, fun whole => ?_⟩
        obtain ⟨same, from_le, to_le⟩ := goes whole
        exact ⟨same, Nat.le_trans (Nat.le_succ _) from_le, to_le⟩
    · exact ⟨true, buffer, socket, readLoop_done read, fun _ => ⟨rfl, Nat.le_refl _, ahead⟩⟩

private theorem reads_fail (memory : Nat → UInt8) (program : ReadProgram SocketMessage)
    (failing : socket.answers call = none) (ahead : socket.calls ≤ call) (soon : call < socket.calls + rounds) :
    ∃ outcome, socketMessageReadCalls memory rounds program socket = some outcome ∧
      (outcome.1.isSome → outcome.2.answers = socket.answers ∧ socket.calls ≤ outcome.2.calls ∧
        outcome.2.calls ≤ call) := by
  induction program generalizing socket with
  | done result => exact ⟨(result, socket), rfl, fun _ => ⟨rfl, Nat.le_refl _, ahead⟩⟩
  | read length next ih =>
    obtain ⟨result, buffer, after, ran, goes⟩ :=
      readLoop_fails ((List.range length).map memory).length 0 ((List.range length).map memory) failing ahead soon
    have read : socketReadCalls rounds socket ((List.range length).map memory) = some (result, buffer, after) := ran
    rw [socketMessageReadCalls, read]
    cases result with
    | false => exact ⟨(none, after), rfl, nofun⟩
    | true =>
      obtain ⟨same, from_le, to_le⟩ := goes rfl
      have failing' : after.answers call = none := same ▸ failing
      obtain ⟨outcome, ended, later⟩ := ih buffer failing' to_le (by omega)
      refine ⟨outcome, ended, fun some => ?_⟩
      obtain ⟨same', from_le', to_le'⟩ := later some
      exact ⟨same'.trans same, Nat.le_trans from_le from_le', to_le'⟩

/-- Reading a message then ends, and takes at least one call. -/
theorem deserialize_fails (memory : Nat → UInt8) (failing : socket.answers call = none)
    (ahead : socket.calls ≤ call) (soon : call < socket.calls + rounds) :
    ∃ outcome, socketMessageDeserializeCalls memory rounds socket = some outcome ∧
      (outcome.1.isSome → outcome.2.answers = socket.answers ∧ socket.calls < outcome.2.calls ∧
        outcome.2.calls ≤ call) := by
  obtain ⟨result, buffer, after, ran, goes⟩ :=
    readLoop_fails ((List.range 1).map memory).length 0 ((List.range 1).map memory) failing ahead soon
  have read : socketReadCalls rounds socket ((List.range 1).map memory) = some (result, buffer, after) := ran
  rw [socketMessageDeserializeCalls, socketMessageReads, socketMessageReadCalls, read]
  cases result with
  | false => exact ⟨(none, after), rfl, nofun⟩
  | true =>
    obtain ⟨same, -, to_le⟩ := goes rfl
    have one : after.calls = socket.calls + 1 := by
      rw [(socketRead_true read).2.2]
      simp [advanced, readSizes, pieceSizes]
    have failing' : after.answers call = none := same ▸ failing
    have soon' : call < after.calls + rounds := by omega
    obtain ⟨outcome, ended, later⟩ := reads_fail memory (socketMessageTypeReads buffer) failing' to_le soon'
    refine ⟨outcome, ended, fun some => ?_⟩
    obtain ⟨same', from_le, to_le'⟩ := later some
    exact ⟨same'.trans same, by omega, to_le'⟩

/-- The type of a message is always read in one piece. -/
theorem piled_type (socket : ReadSide) (arrived : socket.stream = byte :: rest) (memory : Nat → UInt8) :
    piled socket ((List.range 1).map memory) = [byte] := by
  have sizes : readSizes socket 1 = [1] := by simp [readSizes, pieceSizes, Nat.mod_one]
  simp [piled, sizes, arrived, cut, pile, overwrite]

/-- A peer that sends the type of a DIRECTION message and closes. -/
def closedEarly : ReadSide where
  stream := [6]
  answers := some
  calls := 0

private theorem closedEarly_short (memory : Nat → UInt8) :
    ¬ Suffices memory socketMessageReads closedEarly := by
  rintro ⟨-, later⟩
  rw [piled_type closedEarly rfl] at later
  exact absurd later.1 (by decide)

/-- Reading its message never returns. -/
theorem reading_closedEarly :
    ¬ ∃ rounds outcome, socketMessageDeserializeCalls (fun _ => 0) rounds closedEarly = some outcome := by
  rintro ⟨rounds, outcome, returned⟩
  have running := reads_starve (fun _ => rfl) (closedEarly_short fun _ => 0) rounds
  rw [socketMessageDeserializeCalls, running] at returned
  cases returned

/-- A PLAYER_STATE message whose two bytes of data come one at a time is read, and so is
a buffer of three bytes; one of four is never filled. -/
theorem reading_ends_iff_pieces :
    (∃ rounds outcome, socketMessageDeserializeCalls (fun _ => 0) rounds { twoPieces with stream := [5, 1, 3] } =
        some outcome) ∧
      (∃ rounds outcome, socketReadCalls rounds { twoPieces with stream := [5, 1, 3] } [0, 0, 0] = some outcome) ∧
      ¬ ((∃ rounds outcome, socketReadCalls rounds { twoPieces with stream := [5, 1, 3] } [0, 0, 0, 0] = some outcome) ∧
        ∃ rounds left, socketReadCalls rounds { twoPieces with stream := [5, 1, 3] } [0, 0, 0, 0] =
          some (false, left)) := by
  have complete : Suffices (fun _ => 0) socketMessageReads { twoPieces with stream := [5, 1, 3] } := by
    refine ⟨by decide, ?_⟩
    rw [piled_type { twoPieces with stream := [5, 1, 3] } rfl]
    exact ⟨Nat.le_refl 2, trivial⟩
  refine ⟨?_, ?_, ?_⟩
  · exact ((reading_ends_iff _ (fun _ => rfl) [0] (fun _ => 0)).2.mpr complete).1
  · exact ((reading_ends_iff _ (fun _ => rfl) [0, 0, 0] (fun _ => 0)).1.mpr (by decide)).1
  · rintro ⟨ends, starved⟩
    have fits := (reading_ends_iff { twoPieces with stream := [5, 1, 3] } (fun _ => rfl) [0, 0, 0, 0]
      (fun _ => 0)).1.mp ⟨ends, fun _ => starved⟩
    exact absurd fits (by decide)

end SnakePosix.SocketPieces
