import ChipEight.Proofs.Bare.Agreement
import ChipEight.Proofs.Footprint

/-!
# What executing a word writes

Executing a word leaves a machine behind, also when the word cannot be executed. The table of writes
holds for it, and it holds for the bare machine too, whose instructions write one thing after the
other and could be caught half way (`executed_confined`).
-/

namespace ChipEight.Machine

/-- The machine that executing a word leaves behind. -/
def executed (m : Machine) (w : Word) : Machine :=
  match m.execute w with
  | .ok (_, m') => m'
  | .error _ => m

variable (m : Machine) (w : Word)

theorem executed_of_fault {f : Fault} (h : m.faultOf? (decode w) w = some f) :
    m.executed w = m := by
  rw [executed, execute, perform, h]

theorem executed_of_none (h : m.faultOf? (decode w) w = none) :
    m.executed w = m.effect (decode w) w := by
  rw [executed, execute, perform, h]

theorem same_executed {p : Part} (hp : ¬m.mayWrite (decode w) w p) : Same p (m.executed w) m := by
  cases h : m.faultOf? (decode w) w with
  | some f =>
    rw [executed_of_fault m w h]
    exact .refl p m
  | none =>
    rw [executed_of_none m w h]
    exact same_effect m w hp

/-- The random instruction draws once, whatever its mask, and no other instruction draws. -/
theorem random_executed :
    (m.executed w).random = if decode w = .random then m.random.next.2 else m.random := by
  split
  case isTrue hop =>
    have hfault : m.faultOf? (decode w) w = none := by rw [hop]; rfl
    rw [executed_of_none m w hfault, hop]
    rfl
  case isFalse hop => exact same_executed m w (p := .random) hop

/-- The bare machine is left as the machine is. -/
theorem left_carryOut {d : Nat → Int} (hd : m.random.Gives d) :
    BareMachine.left ((BareMachine.carryOut (decode w) w).run (m.bare d)) =
      (m.executed w).bare d := by
  rw [BareMachine.run_carryOut m d w hd]
  cases h : m.faultOf? (decode w) w with
  | some f =>
    rw [executed_of_fault m w h]
    rfl
  | none =>
    rw [executed_of_none m w h]
    rfl

/-- Executing a word leaves every part alone that the table does not list for its instruction, and
there is nothing more to a machine than its parts. The random source gives one byte for the random
instruction and none for the others. All this holds of the machine that is left behind when the word
cannot be executed, and the bare machine is left as this one is. -/
theorem executed_confined (m : Machine) (w : Word) :
    (∀ p, ¬m.mayWrite (decode w) w p → Same p (m.executed w) m) ∧
    (∀ m' m'' : Machine, (∀ p, Same p m' m'') → m' = m'') ∧
    (m.executed w).random = (if decode w = .random then m.random.next.2 else m.random) ∧
    ∀ d, m.random.Gives d →
      BareMachine.left ((BareMachine.carryOut (decode w) w).run (m.bare d)) =
        (m.executed w).bare d :=
  ⟨fun _ hp => same_executed m w hp, fun _ _ h => eq_of_same h, random_executed m w,
    fun _ hd => left_carryOut m w hd⟩

/-- Storing V0 to V2 at the end of memory wraps around to the first cell and stops there. -/
theorem executed_confined_wrapped :
    let d : Nat → Int := fun _ => 0
    let m : Machine := { new .standard (.tape (fun k => byteOfInt (d k)) 0) with i := 0xFFE }
    Same (.cell 1) (m.executed 0xF255) m ∧ (∀ m', (∀ p, Same p m m') → m = m') ∧
      BareMachine.left ((BareMachine.carryOut (decode 0xF255) 0xF255).run (m.bare d)) =
        (m.executed 0xF255).bare d := by
  intro d m
  obtain ⟨hsame, hparts, -, hbare⟩ := executed_confined m 0xF255
  have hop : decode 0xF255 = .store := by decide
  have hcell : ¬m.mayWrite (decode 0xF255) 0xF255 (.cell 1) := by
    rw [hop]
    rintro (⟨hdecimal, -⟩ | ⟨-, k, hk, ha⟩)
    · cases hdecimal
    · have hx : (Word.x 0xF255).val = 2 := by decide
      have hi : m.i.toNat = 0xFFE := rfl
      rw [hx] at hk
      rw [hi] at ha
      change 1 = (0xFFE + k) % 4096 at ha
      omega
  exact ⟨hsame _ hcell, hparts m, hbare d (RandomSource.gives_tape d 0)⟩

end ChipEight.Machine
