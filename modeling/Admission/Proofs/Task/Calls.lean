import Mathlib.Algebra.Ring.Nat
import Admission.Task

/-! # What a call does to its connection

Each call of a task is opened once, here, and what it did is told by the record.
`Admission.Connection.write_cases` says what a write leaves behind,
`Admission.Connection.read_cases` and `Admission.Connection.shutdown_cases` say it of
the other two calls. No call takes anything back: records only grow
(`Admission.Record.UpTo`).

Which calls do what they were asked for depends on the peer's script alone.
`Admission.Script.DeliversWithin` and `Admission.Script.TakesWithin` read it off the
script, without following the call.
-/

namespace Admission

/-- The first record can still become the second one: bytes are added behind those
that the peer took, and counts grow. -/
structure Record.UpTo (earlier later : Record) : Prop where
  written : earlier.written <+: later.written
  shutdowns : earlier.shutdowns ≤ later.shutdowns
  drops : earlier.drops ≤ later.drops
  reads : earlier.reads ≤ later.reads
  bytesRead : earlier.bytesRead ≤ later.bytesRead

namespace Record.UpTo

theorem refl (record : Record) : record.UpTo record :=
  ⟨List.prefix_refl _, Nat.le_refl _, Nat.le_refl _, Nat.le_refl _, Nat.le_refl _⟩

theorem trans {first second third : Record} (one : first.UpTo second) (two : second.UpTo third) :
    first.UpTo third where
  written := one.written.trans two.written
  shutdowns := Nat.le_trans one.shutdowns two.shutdowns
  drops := Nat.le_trans one.drops two.drops
  reads := Nat.le_trans one.reads two.reads
  bytesRead := Nat.le_trans one.bytesRead two.bytesRead

end Record.UpTo

def Beat.span {α : Type} : Beat α → Nat
  | wait ms => ms
  | _ => 0

namespace Script

variable {α : Type}

/-- A beat adds its own wait to those of the script. -/
theorem waiting_cons (beat : Beat α) (rest : Script α) :
    waiting (beat :: rest) = beat.span + waiting rest := by
  cases beat with
  | wait ms => rfl
  | stall => exact (Nat.zero_add _).symm
  | act what => exact (Nat.zero_add _).symm

/-- Waits that fit into the limit lead to the act behind them. -/
theorem meet_of_waits {rest : Script α} {what : α} {left : Nat} (waits : List Nat)
    (fits : waits.sum ≤ left) :
    meet (waits.map .wait ++ .act what :: rest) left = .reached what waits.sum rest := by
  induction waits generalizing left with
  | nil => rfl
  | cons ms waits ih =>
      rw [List.sum_cons] at fits
      have first : ms ≤ left := by omega
      have others : waits.sum ≤ left - ms := by omega
      rw [List.map_cons, List.cons_append, meet, if_pos first, ih others, Meeting.after,
        List.sum_cons]

/-- What is reached after a wait is reached without it, so much earlier. -/
theorem Meeting.reached_of_after {meeting : Meeting α} {ms span : Nat} {what : α}
    {rest : Script α} (reached : meeting.after ms = .reached what span rest) :
    ∃ took, span = ms + took ∧ meeting = .reached what took rest := by
  cases meeting with
  | reached other took behind =>
      cases reached
      exact ⟨took, rfl, rfl⟩
  | spent took => cases reached
  | late behind => cases reached

/-- Before an act that is reached there are waits only, which fit into the time. -/
theorem waits_of_meet {script rest : Script α} {left span : Nat} {what : α}
    (met : script.meet left = .reached what span rest) :
    ∃ waits : List Nat, script = waits.map .wait ++ .act what :: rest ∧
      waits.sum = span ∧ span ≤ left := by
  induction script generalizing left span with
  | nil => cases met
  | cons beat script ih =>
      cases beat with
      | stall => cases met
      | act other =>
          cases met
          exact ⟨[], rfl, rfl, Nat.zero_le _⟩
      | wait ms =>
          rw [meet] at met
          split at met
          next fits =>
            obtain ⟨took, rfl, later⟩ := Meeting.reached_of_after met
            obtain ⟨waits, rfl, sum, within⟩ := ih later
            refine ⟨ms :: waits, rfl, ?_, ?_⟩
            · rw [List.sum_cons, sum]
            · omega
          next => cases met

/-- The peer sends at least one byte before the limit has passed. -/
def DeliversWithin (script : Script ReadAct) (limit : Nat) : Prop :=
  ∃ (waits : List Nat) (count : Nat) (rest : Script ReadAct),
    script = waits.map .wait ++ .act (.deliver (count + 1)) :: rest ∧ waits.sum ≤ limit

end Script

/-- Whether a beat of a peer keeps a write going: it passes by itself, or takes some of
the bytes, or is an error after which the write is tried again. -/
def Beat.isWilling : Beat WriteAct → Bool
  | wait _ => true
  | stall => false
  | act (.accept count) => count != 0
  | act (.fail kind) => Connection.retried kind

def Beat.taking : Beat WriteAct → Nat
  | act (.accept count) => count
  | _ => 0

namespace Script

/-- The peer takes so many bytes before the limit has passed: up to some place of its
script every beat keeps the write going, the waits until there fit into the limit, and
by then the bytes are taken or the script is used up. -/
def TakesWithin (script : Script WriteAct) (size limit : Nat) : Prop :=
  ∃ earlier later : Script WriteAct, script = earlier ++ later ∧
    (∀ beat ∈ earlier, beat.isWilling = true) ∧ earlier.waiting ≤ limit ∧
    (size ≤ (earlier.map Beat.taking).sum ∨ later = [])

/-- Every peer takes nothing at once. -/
theorem takesWithin_zero (script : Script WriteAct) (limit : Nat) :
    script.TakesWithin 0 limit :=
  ⟨[], script, rfl, nofun, Nat.zero_le _, .inl (Nat.zero_le _)⟩

theorem takesWithin_nil (size limit : Nat) : TakesWithin [] size limit :=
  ⟨[], [], rfl, nofun, Nat.zero_le _, .inr rfl⟩

/-- A write that has bytes left depends on the next beat and on what comes after it. -/
theorem takesWithin_cons {beat : Beat WriteAct} {rest : Script WriteAct} {size limit : Nat}
    (some : 0 < size) :
    TakesWithin (beat :: rest) size limit ↔
      beat.isWilling = true ∧ beat.span ≤ limit ∧
        TakesWithin rest (size - beat.taking) (limit - beat.span) := by
  constructor
  · rintro ⟨earlier, later, shape, willing, within, enough⟩
    cases earlier with
    | nil =>
        rcases enough with enough | enough
        · rw [List.map_nil, List.sum_nil] at enough
          omega
        · rw [enough] at shape
          cases shape
    | cons first earlier =>
        cases shape
        rw [waiting_cons] at within
        rw [List.map_cons, List.sum_cons] at enough
        refine ⟨willing _ List.mem_cons_self, by omega, earlier, later, rfl, ?_, by omega, ?_⟩
        · exact fun beat member => willing beat (List.mem_cons_of_mem _ member)
        · exact enough.imp (fun enough => by omega) id
  · rintro ⟨keen, fits, earlier, later, rfl, willing, within, enough⟩
    refine ⟨beat :: earlier, later, rfl, ?_, ?_, ?_⟩
    · intro other member
      rcases List.mem_cons.mp member with rfl | member
      · exact keen
      · exact willing other member
    · rw [waiting_cons]
      omega
    · rw [List.map_cons, List.sum_cons]
      exact enough.imp (fun enough => by omega) id

end Script

namespace Connection

/-- What a write of some bytes leaves behind: the peer took a prefix of them, nothing
else but the script has changed, and the write did what it was asked for when that
prefix is all of them. -/
def Wrote (conn : Connection) (bytes : List UInt8) (ended : Ended) : Prop :=
  ∃ taken rest, taken <+: bytes ∧ ended.conn = { conn.took taken with writes := rest } ∧
    (ended.reply = .done ↔ taken = bytes)

theorem took_nil (conn : Connection) : conn.took [] = conn := by
  rw [took, List.append_nil]

/-- A write that falls short at once leaves the peer with nothing of the bytes. -/
theorem wrote_nothing (conn : Connection) {bytes : List UInt8} {reply : Reply} {span : Nat}
    {rest : Script WriteAct} (some : bytes ≠ []) (short : reply ≠ .done) :
    conn.Wrote bytes ⟨reply, span, { conn with writes := rest }⟩ := by
  refine ⟨[], rest, List.nil_prefix, ?_, ?_⟩
  · rw [took_nil]
  · exact ⟨fun done => (short done).elim, fun none => (some none.symm).elim⟩

theorem wrote_all (conn : Connection) (bytes : List UInt8) (rest : Script WriteAct) :
    conn.Wrote bytes ⟨.done, 0, { conn.took bytes with writes := rest }⟩ :=
  ⟨bytes, rest, List.prefix_refl _, rfl, iff_of_true rfl rfl⟩

/-- What a write of the rest leaves behind, a write of the whole leaves behind whose front was
taken. -/
theorem Wrote.behind {conn : Connection} {bytes : List UInt8} {ended : Ended} (count : Nat)
    (wrote : (conn.took (bytes.take count)).Wrote (bytes.drop count) ended) :
    conn.Wrote bytes ended := by
  obtain ⟨taken, rest, initial, after, complete⟩ := wrote
  refine ⟨bytes.take count ++ taken, rest, ?_, ?_, ?_⟩
  · obtain ⟨remaining, whole⟩ := initial
    refine ⟨remaining, ?_⟩
    rw [List.append_assoc, whole, List.take_append_drop]
  · rw [after, took, took, took, List.append_assoc]
  · rw [complete]
    constructor
    · rintro rfl
      exact List.take_append_drop count bytes
    · intro whole
      exact List.append_cancel_left (whole.trans (List.take_append_drop count bytes).symm)

/-- A write leaves behind what it should, along any script. -/
theorem writeAlong_wrote (conn : Connection) (script : Script WriteAct) (bytes : List UInt8)
    (left : Nat) : conn.Wrote bytes (conn.writeAlong script bytes left) := by
  fun_induction writeAlong conn script bytes left with
  | case1 conn left script =>
      have whole := conn.wrote_all [] script
      rwa [took_nil] at whole
  | case2 conn left bytes some => exact conn.wrote_all bytes []
  | case3 conn ms rest bytes left some fits ended ih => exact ih
  | case4 conn ms rest bytes left some late => exact conn.wrote_nothing some nofun
  | case5 conn bytes rest left some => exact conn.wrote_nothing some nofun
  | case6 conn kind rest bytes left some again ih => exact ih
  | case7 conn kind rest bytes left some final => exact conn.wrote_nothing some nofun
  | case8 conn rest bytes left some => exact conn.wrote_nothing some nofun
  | case9 conn count rest bytes left some taking ih => exact ih.behind

/-- A write does what it was asked for exactly when the peer takes all the bytes in
time. -/
theorem writeAlong_done_iff (conn : Connection) (script : Script WriteAct) (bytes : List UInt8)
    (left : Nat) :
    (conn.writeAlong script bytes left).reply = .done ↔
      script.TakesWithin bytes.length left := by
  fun_induction writeAlong conn script bytes left with
  | case1 conn left script => exact iff_of_true rfl (Script.takesWithin_zero _ _)
  | case2 conn left bytes some => exact iff_of_true rfl (Script.takesWithin_nil _ _)
  | case3 conn ms rest bytes left some fits ended ih =>
      rw [Script.takesWithin_cons (List.length_pos_iff.mpr some)]
      exact ih.trans ⟨fun takes => ⟨rfl, fits, takes⟩, fun takes => takes.2.2⟩
  | case4 conn ms rest bytes left some late =>
      rw [Script.takesWithin_cons (List.length_pos_iff.mpr some)]
      exact iff_of_false nofun fun takes => late takes.2.1
  | case5 conn bytes rest left some =>
      rw [Script.takesWithin_cons (List.length_pos_iff.mpr some)]
      exact iff_of_false nofun fun takes => Bool.false_ne_true takes.1
  | case6 conn kind rest bytes left some again ih =>
      rw [Script.takesWithin_cons (List.length_pos_iff.mpr some)]
      exact ih.trans ⟨fun takes => ⟨again, Nat.zero_le _, takes⟩, fun takes => takes.2.2⟩
  | case7 conn kind rest bytes left some final =>
      rw [Script.takesWithin_cons (List.length_pos_iff.mpr some)]
      exact iff_of_false nofun fun takes => final takes.1
  | case8 conn rest bytes left some =>
      rw [Script.takesWithin_cons (List.length_pos_iff.mpr some)]
      exact iff_of_false nofun fun takes => Bool.false_ne_true takes.1
  | case9 conn count rest bytes left some taking ih =>
      rw [Script.takesWithin_cons (List.length_pos_iff.mpr some)]
      rw [List.length_drop] at ih
      have willing : Beat.isWilling (.act (.accept count)) = true := bne_iff_ne.mpr taking
      exact ih.trans ⟨fun takes => ⟨willing, Nat.zero_le _, takes⟩, fun takes => takes.2.2⟩

/-- A read adds at most one completed read and what it delivered to the record, and
changes nothing else but the script. -/
theorem read_cases (conn : Connection) (room limit : Nat) :
    ∃ rest ended given, ended ≤ 1 ∧ (conn.read room limit).conn =
      { conn with
        reads := rest
        record := { conn.record with
          reads := conn.record.reads + ended
          bytesRead := conn.record.bytesRead + given } } := by
  unfold read
  split
  next what took rest met =>
    cases what with
    | fail kind => exact ⟨rest, 1, 0, Nat.le_refl _, rfl⟩
    | deliver count => exact ⟨_, 1, min room count, Nat.le_refl _, rfl⟩
  next took met => exact ⟨[], 0, 0, Nat.zero_le _, rfl⟩
  next rest met => exact ⟨rest, 0, 0, Nat.zero_le _, rfl⟩

/-- A read that has room does what it was asked for exactly when the peer sends
something in time. -/
theorem read_done_iff (conn : Connection) (room : Nat) (roomy : 0 < room) (limit : Nat) :
    (conn.read room limit).reply = .done ↔ conn.reads.DeliversWithin limit := by
  constructor
  · intro done
    unfold read at done
    split at done
    next what took rest met =>
      obtain ⟨waits, shape, rfl, within⟩ := Script.waits_of_meet met
      cases what with
      | fail kind => cases done
      | deliver count =>
          cases count with
          | zero => simp [readAct] at done
          | succ count => exact ⟨waits, count, rest, shape, within⟩
    next => cases done
    next => cases done
  · rintro ⟨waits, count, rest, shape, within⟩
    have some : min room (count + 1) ≠ 0 := by omega
    simp [read, shape, Script.meet_of_waits waits within, readAct, some]

/-- A shutdown adds at most one completed shutdown to the record, and changes nothing
else but the script. -/
theorem shutdown_cases (conn : Connection) (limit : Nat) :
    ∃ rest ended, ended ≤ 1 ∧ (conn.shutdown limit).conn =
      { conn with
        closing := rest
        record := { conn.record with shutdowns := conn.record.shutdowns + ended } } := by
  unfold shutdown
  split
  next what took rest met =>
    cases what with
    | fail kind => exact ⟨rest, 1, Nat.le_refl _, rfl⟩
    | succeed => exact ⟨rest, 1, Nat.le_refl _, rfl⟩
  next took met => exact ⟨[], 1, Nat.le_refl _, rfl⟩
  next rest met => exact ⟨rest, 0, Nat.zero_le _, rfl⟩

end Connection

/-- No call takes anything back from the record. -/
theorem Request.perform_upTo (request : Request) (conn : Connection) :
    conn.record.UpTo (request.perform conn).conn.record := by
  cases request with
  | read room limit =>
      obtain ⟨rest, ended, given, -, after⟩ := conn.read_cases room limit
      rw [perform, after]
      exact ⟨List.prefix_refl _, Nat.le_refl _, Nat.le_refl _, Nat.le_add_right _ _,
        Nat.le_add_right _ _⟩
  | write bytes limit =>
      obtain ⟨taken, rest, -, after, -⟩ := conn.writeAlong_wrote conn.writes bytes limit
      rw [perform, Connection.write, after]
      exact ⟨List.prefix_append _ _, Nat.le_refl _, Nat.le_refl _, Nat.le_refl _, Nat.le_refl _⟩
  | shutdown limit =>
      obtain ⟨rest, ended, -, after⟩ := conn.shutdown_cases limit
      rw [perform, after]
      exact ⟨List.prefix_refl _, Nat.le_add_right _ _, Nat.le_refl _, Nat.le_refl _,
        Nat.le_refl _⟩

/-- Dropping a connection takes nothing back from the record. -/
theorem Connection.dropped_upTo (conn : Connection) : conn.record.UpTo conn.dropped.record :=
  ⟨List.prefix_refl _, Nat.le_refl _, Nat.le_succ _, Nat.le_refl _, Nat.le_refl _⟩

/-- No task takes anything back. -/
theorem Task.run_upTo {α : Type} (task : Task α) (conn : Connection) :
    conn.record.UpTo (task.run conn).conn.record := by
  induction task generalizing conn with
  | finish result => exact .refl _
  | ask request next ih => exact (request.perform_upTo conn).trans (ih _ _)
  | drop next ih => exact conn.dropped_upTo.trans (ih _)
  | pass next ih => exact ih _
  | crash => exact conn.dropped_upTo

end Admission
