import Admission.Proofs.Task.Calls

/-! # What a call meets

How a call on a script goes is decided by the front of the script: the waits before everything
else (`Admission.Script.leading`) and the beat behind them (`Admission.Script.upNext`). Here a
read is decided so (`Admission.Script.silent_or_refuses_or_delivers`), and whether a shutdown
is completed (`Admission.Connection.shutdown_count`).
-/

namespace Admission

namespace Script

variable {α : Type}

/-- The waits before everything else, in milliseconds. -/
def leading : Script α → Nat
  | .wait ms :: rest => ms + leading rest
  | _ => 0

/-- The first beat that is no wait. -/
def upNext : Script α → Option (Beat α)
  | [] => none
  | .wait _ :: rest => upNext rest
  | beat :: _ => some beat

/-- The peer comes to this act within the limit. -/
def Brings (script : Script α) (limit : Nat) (what : α) : Prop :=
  script.leading ≤ limit ∧ script.upNext = some (.act what)

/-- A peer comes to one act only. -/
theorem Brings.unique {script : Script α} {limit : Nat} {first second : α}
    (one : script.Brings limit first) (two : script.Brings limit second) : first = second := by
  have same := one.2.symm.trans two.2
  exact Beat.act.inj (Option.some.inj same)

/-- What a call meets is decided by the leading waits and the beat behind them. -/
theorem meet_cases (script : Script α) (left : Nat) :
    (∃ what rest, script.Brings left what ∧
      script.meet left = .reached what script.leading rest) ∨
    (script.leading ≤ left ∧ script.upNext = none ∧ script.meet left = .spent script.leading) ∨
    ((left < script.leading ∨ script.upNext = some .stall) ∧
      ∃ rest, script.meet left = .late rest) := by
  induction script generalizing left with
  | nil => exact .inr (.inl ⟨Nat.zero_le _, rfl, rfl⟩)
  | cons beat script ih =>
      cases beat with
      | stall => exact .inr (.inr ⟨.inr rfl, _, rfl⟩)
      | act what => exact .inl ⟨what, script, ⟨Nat.zero_le _, rfl⟩, rfl⟩
      | wait ms =>
          by_cases fits : ms ≤ left
          · have onward : meet (.wait ms :: script) left = (meet script (left - ms)).after ms :=
              if_pos fits
            have leads : leading (.wait ms :: script) = ms + leading script := rfl
            rw [onward, leads]
            rcases ih (left - ms) with ⟨what, rest, ⟨within, next⟩, met⟩ | ⟨within, none, met⟩ |
              ⟨short, rest, met⟩
            · rw [met]
              exact .inl ⟨what, rest, ⟨Nat.add_le_of_le_sub' fits within, next⟩, rfl⟩
            · rw [met]
              exact .inr (.inl ⟨Nat.add_le_of_le_sub' fits within, none, rfl⟩)
            · rw [met]
              exact .inr (.inr ⟨short.imp (by omega) id, rest, rfl⟩)
          · have cut : meet (.wait ms :: script) left = .late (.wait ms :: script) := if_neg fits
            have long : left < ms + leading script := by omega
            exact .inr (.inr ⟨.inl long, _, cut⟩)

/-- The act that a peer comes to in time is reached, after the waits in front of it. -/
theorem meet_of_brings {script : Script α} {limit : Nat} {what : α}
    (brings : script.Brings limit what) :
    ∃ rest, script.meet limit = .reached what script.leading rest := by
  obtain ⟨within, next⟩ := brings
  rcases script.meet_cases limit with ⟨other, rest, brings, met⟩ | ⟨-, none, -⟩ | ⟨short, -⟩
  · obtain rfl := brings.unique ⟨within, next⟩
    exact ⟨rest, met⟩
  · cases none.symm.trans next
  · rcases short with long | stalls
    · exact (Nat.not_le_of_lt long within).elim
    · cases stalls.symm.trans next

/-- An act that is reached is the one that the peer comes to in time. -/
theorem brings_of_meet {script rest : Script α} {limit span : Nat} {what : α}
    (met : script.meet limit = .reached what span rest) : script.Brings limit what := by
  rcases script.meet_cases limit with ⟨other, behind, brings, same⟩ | ⟨-, -, same⟩ |
    ⟨-, behind, same⟩
  · cases same.symm.trans met
    exact brings
  · cases same.symm.trans met
  · cases same.symm.trans met

/-- A peer delivers in time when it comes to sending at least one byte. -/
theorem deliversWithin_iff {script : Script ReadAct} {limit : Nat} :
    script.DeliversWithin limit ↔ ∃ count, script.Brings limit (.deliver (count + 1)) := by
  constructor
  · rintro ⟨waits, count, rest, rfl, within⟩
    exact ⟨count, brings_of_meet (meet_of_waits waits within)⟩
  · rintro ⟨count, brings⟩
    obtain ⟨rest, met⟩ := meet_of_brings brings
    obtain ⟨waits, shape, sum, within⟩ := waits_of_meet met
    exact ⟨waits, count, rest, shape, Nat.le_trans (Nat.le_of_eq sum) within⟩

/-- Within the limit the peer fails the read or ends the stream. -/
def Refuses (script : Script ReadAct) (limit : Nat) : Prop :=
  (∃ kind, script.Brings limit (.fail kind)) ∨ script.Brings limit (.deliver 0)

/-- A read gets nothing in time, or is refused, or delivers something. -/
theorem silent_or_refuses_or_delivers (script : Script ReadAct) (limit : Nat) :
    (∀ what, ¬ script.Brings limit what) ∨ script.Refuses limit ∨ script.DeliversWithin limit := by
  by_cases silent : ∀ what, ¬ script.Brings limit what
  · exact .inl silent
  · obtain ⟨what, brings⟩ := not_forall_not.mp silent
    rcases what with kind | (_ | count)
    · exact .inr (.inl (.inl ⟨kind, brings⟩))
    · exact .inr (.inl (.inr brings))
    · exact .inr (.inr (deliversWithin_iff.mpr ⟨count, brings⟩))

theorem DeliversWithin.not_silent {script : Script ReadAct} {limit : Nat}
    (delivers : script.DeliversWithin limit) : ¬ ∀ what, ¬ script.Brings limit what := by
  obtain ⟨count, brings⟩ := deliversWithin_iff.mp delivers
  exact fun silent => silent _ brings

theorem Refuses.not_silent {script : Script ReadAct} {limit : Nat}
    (refuses : script.Refuses limit) : ¬ ∀ what, ¬ script.Brings limit what := by
  intro silent
  rcases refuses with ⟨kind, fails⟩ | ends
  · exact silent _ fails
  · exact silent _ ends

/-- A peer that refuses does not deliver. -/
theorem Refuses.not_delivers {script : Script ReadAct} {limit : Nat}
    (refuses : script.Refuses limit) : ¬ script.DeliversWithin limit := by
  rw [deliversWithin_iff]
  rintro ⟨count, delivers⟩
  rcases refuses with ⟨kind, fails⟩ | ends
  · cases fails.unique delivers
  · cases ends.unique delivers

end Script

namespace Connection

variable {conn : Connection} {limit : Nat}

/-- A read from a silent peer is late. -/
theorem read_of_silent (silent : ∀ what, ¬ conn.reads.Brings limit what) (room : Nat) :
    (conn.read room limit).reply = .late := by
  unfold read
  rcases conn.reads.meet_cases limit with ⟨what, rest, brings, -⟩ | ⟨-, -, met⟩ | ⟨-, rest, met⟩
  · exact (silent what brings).elim
  · rw [met]
  · rw [met]

/-- A read from a peer that refuses fails or is at the end of the stream. -/
theorem read_of_refuses (refuses : conn.reads.Refuses limit) (room : Nat) :
    (conn.read room limit).reply = .failed ∨ (conn.read room limit).reply = .ended := by
  unfold read
  rcases refuses with ⟨kind, fails⟩ | ends
  · obtain ⟨rest, met⟩ := Script.meet_of_brings fails
    rw [met]
    exact .inl rfl
  · obtain ⟨rest, met⟩ := Script.meet_of_brings ends
    have none : min room 0 = 0 := Nat.min_zero room
    rw [met]
    exact .inr (if_pos none)

/-- A shutdown is completed exactly when the leading waits fit into its limit and lead to no
stall. -/
theorem shutdown_count (conn : Connection) (limit : Nat) :
    (conn.shutdown limit).conn.record.shutdowns = conn.record.shutdowns +
      if conn.closing.leading ≤ limit ∧ conn.closing.upNext ≠ some .stall then 1 else 0 := by
  unfold shutdown
  rcases conn.closing.meet_cases limit with ⟨what, rest, ⟨within, next⟩, met⟩ |
    ⟨within, none, met⟩ | ⟨short, rest, met⟩
  · rw [met, if_pos ⟨within, by rw [next]; nofun⟩]
    cases what <;> rfl
  · rw [met, if_pos ⟨within, by rw [none]; nofun⟩]
    rfl
  · have never : ¬ (conn.closing.leading ≤ limit ∧ conn.closing.upNext ≠ some .stall) := by
      rintro ⟨within, onward⟩
      rcases short with long | stalls
      · exact Nat.not_le_of_lt long within
      · exact onward stalls
    rw [met, if_neg never]
    rfl

end Connection

end Admission
