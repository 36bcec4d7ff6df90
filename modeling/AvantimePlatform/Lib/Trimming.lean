import AvantimePlatform.Lib.Replace
import AvantimePlatform.Lib.Text

/-!
# Trimmed text

`trim` of a string as `trim` of its characters.

Nothing here names a component of the platform.
-/

namespace AvantimePlatform.Text

theorem toList_trim (value : String) :
    (Text.trim value).toList = Replace.trim isBlank value.toList := by
  unfold Text.trim Replace.trim
  rw [String.toList_ofList]
  rfl

theorem trimmed_trim (value : String) : Trimmed (Text.trim value) := by
  unfold Trimmed
  apply String.toList_inj.mp
  rw [toList_trim, toList_trim, Replace.trim_trim]

end AvantimePlatform.Text
