import Formulary.Proofs.Install.Order
import Formulary.Proofs.Text.Decoding

/-!
# Scripts and what was printed

A script is what a program printed, read leniently and written as text again. So a step that succeeds
leaves for each of its places what was printed for it byte for byte just if these are the bytes of a
text: `held_perform`.
-/

namespace Formulary.Install

variable {s : Setting} {c : Completions} {w : World}

/-- A program that ends well, and in time, has printed these bytes. -/
def Asking.Printed (s : Setting) (a : Asking) (bytes : Bytes) : Prop :=
  ∃ p moment status, s.launch (s.request a.completions a.shell) a.world.site = .ok p ∧
    p.ending = some (moment, .ok status) ∧ status.success = true ∧ moment < s.timeout ∧
    (p.after (moment + 1)).stdout = bytes

theorem printed_of_answer {a : Asking} {script : String} (h : a.answer s = .ok script) :
    ∃ bytes, a.Printed s bytes ∧ script = Text.decodeLossy bytes := by
  obtain ⟨o, status, hseen, ho, hstatus, rfl⟩ := a.said_of_answer s h
  unfold Asking.seen at hseen
  cases hlaunch : s.launch (s.request a.completions a.shell) a.world.site with
  | error e =>
    rw [supervise_refused hlaunch s.timeout] at hseen
    cases hseen
  | ok p =>
    obtain ⟨ended, time, hsupervise, -, -, hended, -⟩ := supervise_seen hlaunch s.timeout
    rw [hsupervise] at hseen
    obtain ⟨ended, rfl, rfl⟩ := map_eq_ok.1 hseen
    obtain rfl : ended = .exited status := ho
    obtain ⟨⟨⟩⟩ | hended := hended
    obtain ⟨moment, hending, hmoment, rfl⟩ := Process.ended_of_seen hended
    exact ⟨_, ⟨p, moment, status, hlaunch, hending, hstatus, hmoment, rfl⟩, rfl⟩

/-- The files of scripts are what was printed, read leniently and written as text again. -/
theorem printed_of_given {as : List Asking} {list : List (Path × String)}
    (h : List.Forall₂ (fun a entry => entry.1 = a.place s ∧ a.answer s = .ok entry.2) as list) :
    ∃ printed, List.Forall₂ (Asking.Printed s) as printed ∧
      list.map fileOf = (as.map (Asking.place s)).zip
        (printed.map fun bytes => Text.encode (Text.decodeLossy bytes)) := by
  induction h with
  | nil => exact ⟨[], .nil, rfl⟩
  | @cons a entry as list hgiven _ ih =>
    obtain ⟨place, script⟩ := entry
    obtain ⟨rfl, hanswer⟩ := hgiven
    obtain ⟨bytes, hprinted, rfl⟩ := printed_of_answer hanswer
    obtain ⟨printed, hothers, hfiles⟩ := ih
    exact ⟨bytes :: printed, .cons hprinted hothers, congrArg _ hfiles⟩

theorem map_place_of_requests {as : List Asking}
    (h : as.map Asking.request = c.shells.map (c, ·)) : as.map (Asking.place s) = s.places c := by
  have hplaces : as.map (Asking.place s) =
      (as.map Asking.request).map fun r => r.2.completionPath s.root (s.baseOf r.1) := by
    rw [List.map_map]
    rfl
  rw [hplaces, h, List.map_map]
  rfl

/-- **A step that succeeds has a script for each of its shells, and holds what was printed, as far as
this is text.** Each place holds what was last written where it leads: what was printed, byte for byte,
just if these are the bytes of a text. -/
theorem held_perform {written : List Path}
    (h : (outcome (perform s (.completions c) written) w).1.2 = .ok ()) :
    (asking s c c.shells w).map Asking.request = c.shells.map (c, ·) ∧
      ∃ printed, List.Forall₂ (Asking.Printed s) (asking s c c.shells w) printed ∧
        (outcome (perform s (.completions c) written) w).2.Holds
          ((s.places c).zip (printed.map fun bytes => Text.encode (Text.decodeLossy bytes))) ∧
        ∀ bytes ∈ printed,
          Text.encode (Text.decodeLossy bytes) = bytes ↔ ∃ text, bytes = Text.encode text := by
  obtain ⟨added, result, w', houtcome, hwent⟩ := went_perform s c w
  rw [houtcome] at h ⊢
  obtain rfl : result = .ok () := h
  obtain ⟨list, v, answered, landed⟩ := hwent.of_ok
  obtain ⟨hrequests, -, hgiven⟩ := answered.of_ok rfl
  obtain ⟨printed, hprinted, hfiles⟩ := printed_of_given hgiven
  refine ⟨hrequests, printed, hprinted, ?_, fun bytes _ => Text.encode_decodeLossy_iff⟩
  rw [← map_place_of_requests hrequests, ← hfiles]
  exact landed.holds (.nil v)

theorem held_talkative :
    let w : World := { files := { entries := [(["p"], .directory)] } }
    let r := outcome (perform talkativeSetting (.completions twoShells) []) w
    r.1.2 = .ok () ∧
      ∃ printed, List.Forall₂ (Asking.Printed talkativeSetting)
          (asking talkativeSetting twoShells [.bash, .fish] w) printed ∧
        r.2.Holds ((talkativeSetting.places twoShells).zip
          (printed.map fun bytes => Text.encode (Text.decodeLossy bytes))) := by
  intro w r
  have hr : r.1.2 = .ok () := by decide +kernel
  obtain ⟨-, printed, hprinted, hheld, -⟩ := held_perform hr
  exact ⟨hr, printed, hprinted, hheld⟩

/-! ### Bytes that are no text -/

/-- Of a program that prints one byte that stands in no text, this is not what is held in the end,
though the step succeeds. -/
theorem unheld_binary :
    let s : Setting := { talkativeSetting with launch := .printing 0 fun _ => [0xFF] }
    let c : Completions := { shells := [.bash] }
    let w : World := { files := { entries := [(["p"], .directory)] } }
    let r := outcome (perform s (.completions c) []) w
    (∀ a ∈ asking s c c.shells w, a.Printed s [0xFF]) ∧
      r.1 = ([⟨"/p/share/bash-completion/completions/tool"⟩], .ok ()) ∧
      (outcome (Disk.read "/p/share/bash-completion/completions/tool") r.2).1 =
        .ok [0xEF, 0xBF, 0xBD] := by
  refine ⟨fun a _ => ?_, by decide +kernel⟩
  exact ⟨_, 0, .exited 0, rfl, rfl, rfl, by decide, rfl⟩

end Formulary.Install
