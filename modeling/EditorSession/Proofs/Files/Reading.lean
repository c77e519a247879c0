import EditorSession.Proofs.Text.Utf8
import EditorSession.Resolve

/-! Files that can be read as text: those whose bytes are the encoding of a text. -/

namespace EditorSession
namespace World

theorem readText_eq_ok_iff {w : World} {file : Path} {text : String} :
    w.readText file = .ok text ↔ w.readBytes file = .ok (Utf8.ofString text) := by
  unfold readText
  cases w.readBytes file with
  | error _ => exact ⟨nofun, nofun⟩
  | ok bytes =>
    rw [Except.ok.injEq, ← Utf8.toString?_eq_some_iff]
    simp only [bind, Except.bind]
    cases Utf8.toString? bytes <;> simp

theorem readUtf8_eq_ok_iff {w : World} {file : Path} {text : String} :
    w.readUtf8 file = .ok text ↔ w.readText file = .ok text := by
  unfold readUtf8
  cases w.readText file with
  | ok _ => simp
  | error cause => cases cause <;> simp

end World
end EditorSession
