import TreeShell.Proofs.Path.Resolve
import TreeShell.Proofs.Text.Blank

namespace TreeShell.Path

theorem not_absolute_ofBrowser (text : Option String) : ¬ Absolute (ofBrowser text) := by
  cases text with
  | none => exact Normal.not_absolute (.inl rfl)
  | some text =>
    intro absolute
    rw [Absolute, ofBrowser, Text.toList_stripChar] at absolute
    exact Text.not_drop_of_head?_stripChars absolute (by decide)

theorem ofBrowser_sublist (text : String) :
    (ofBrowser (some text)).toList.Sublist text.toList :=
  (Text.stripChar_sublist '/' (Text.trim text)).trans (Text.trim_sublist text)

theorem Normal.stripChar_eq_self {path : Path} (normal : Normal path) :
    Text.stripChar '/' path = path := by
  have ends : Text.stripChars (· == '/') path.toList = path.toList := by
    apply Text.stripChars_eq_self
    · intro c first slash
      exact normal.not_absolute (by rw [Absolute, first, beq_iff_eq.mp slash])
    · intro c last slash
      exact normal.getLast?_ne (by rw [last, beq_iff_eq.mp slash])
  rw [Text.stripChar, ends, String.ofList_toList]

theorem Normal.ofBrowser_eq_self_iff {path : Path} (normal : Normal path) :
    ofBrowser (some path) = path ↔ Text.trim path = path := by
  constructor
  · intro same
    have inner := Text.stripChar_sublist '/' (Text.trim path)
    rw [show Text.stripChar '/' (Text.trim path) = path from same] at inner
    exact String.toList_inj.mp ((Text.trim_sublist path).antisymm inner)
  · intro same
    rw [ofBrowser, same, normal.stripChar_eq_self]

end TreeShell.Path
