import Gvpn.Fronter.Envelope

/-! When the script's answer is taken apart without a panic. -/

namespace Gvpn

/-- Neither a text nor the page in it is an envelope, and byte 200 of the page is no border. -/
def QuotesInside (texts : LibraryTexts) (text : Text) : Prop :=
  RelayResponse.ofText texts text = none ∧
    ∃ page, extractAppsScriptUserHtml texts text = some page ∧
      RelayResponse.ofText texts page = none ∧ EndsInside page 200

theorem findEnvelope_panics_iff (texts : LibraryTexts) (text : Text) :
    findEnvelope texts text = .error .panicked ↔ QuotesInside texts text := by
  unfold findEnvelope QuotesInside
  cases direct : RelayResponse.ofText texts text with
  | some answer => simp
  | none =>
    cases unwrapped : extractAppsScriptUserHtml texts text with
    | none =>
      simp only [true_and, reduceCtorEq, false_and, exists_false, iff_false]
      split
      · simp
      · split
        · simp
        · split
          · simp
          · split <;> simp
    | some page =>
      cases inner : RelayResponse.ofText texts page with
      | some answer => simp [inner]
      | none =>
        simp only [true_and, Option.some.injEq, exists_eq_left', inner]
        rw [← fromUtf8_take_eq_none_iff]
        cases fromUtf8 ((toUtf8 page).take 200) <;> simp

theorem parseRelayJson_panics_iff (texts : LibraryTexts) (stripNoise : Bool) (body : Bytes) :
    parseRelayJson texts stripNoise body = .error .panicked ↔
      ∃ text, fromUtf8 body = some text ∧ QuotesInside texts (trim text) := by
  unfold parseRelayJson
  cases decoded : fromUtf8 body with
  | none => simp
  | some text =>
    simp only [Option.some.injEq, exists_eq_left']
    rw [← findEnvelope_panics_iff texts]
    by_cases empty : trim text = []
    · -- In an empty text there is no page to be unwrapped.
      have nothing : extractAppsScriptUserHtml texts [] = none := by
        have absent : cut (lit "goog.script.init(\"") [] = none := by with_unfolding_all rfl
        rw [extractAppsScriptUserHtml, absent]
      rw [if_pos empty, empty, findEnvelope_panics_iff]
      simp [QuotesInside, nothing]
    · rw [if_neg empty]
      cases found : findEnvelope texts (trim text) with
      | error stop => simp
      | ok answer =>
        simp only [reduceCtorEq, iff_false]
        split
        · simp
        · split <;> simp

theorem findEnvelope_error {texts : LibraryTexts} {text : Text} {stop : Stop}
    (stopped : findEnvelope texts text = .error stop) :
    stop = .panicked ∨ ∃ error, stop = .failed error := by
  unfold findEnvelope at stopped
  repeat' split at stopped
  all_goals simp only [Except.error.injEq, reduceCtorEq] at stopped
  all_goals
    rw [← stopped]
    simp

/--
The script's answer becomes a response or an error for all bytes, exactly unless a page that is
unwrapped from it is quoted up to the middle of a character.
-/
theorem parseRelayJson_returns_iff (texts : LibraryTexts) (stripNoise : Bool) (body : Bytes) :
    ((∃ response, parseRelayJson texts stripNoise body = .ok response) ∨
        ∃ error, parseRelayJson texts stripNoise body = .error (.failed error)) ↔
      ¬ ∃ text, fromUtf8 body = some text ∧ QuotesInside texts (trim text) := by
  rw [← parseRelayJson_panics_iff texts stripNoise]
  cases result : parseRelayJson texts stripNoise body with
  | ok response => simp
  | error stop =>
    have known : stop = .panicked ∨ ∃ error, stop = .failed error := by
      unfold parseRelayJson at result
      repeat' split at result
      all_goals simp only [Except.error.injEq, reduceCtorEq] at result
      all_goals
        rw [← result]
        first
          | exact findEnvelope_error ‹_›
          | simp
    rcases known with rfl | ⟨error, rfl⟩ <;> simp

def framedPage : Text :=
  lit "goog.script.init(\"\x7b\\x22userHtml\\x22:\\x22" ++ List.replicate 199 'a' ++
    lit "\\u00e9\\x22\x7d\", \"\", undefined"

theorem framed_page_panics :
    parseRelayJson noTexts true (toUtf8 framedPage) = .error .panicked := by
  have trimmed : trim framedPage = framedPage := by decide +kernel
  have unwrapped : extractAppsScriptUserHtml noTexts framedPage =
      some (List.replicate 199 'a' ++ ['é']) := by
    decide +kernel
  have outer : (RelayResponse.ofText noTexts framedPage).isNone = true := by decide +kernel
  have inner : (RelayResponse.ofText noTexts (List.replicate 199 'a' ++ ['é'])).isNone = true := by
    decide +kernel
  rw [parseRelayJson_panics_iff]
  refine ⟨framedPage, fromUtf8_toUtf8 _, ?_⟩
  rw [trimmed]
  refine ⟨Option.isNone_iff_eq_none.mp outer, _, unwrapped, Option.isNone_iff_eq_none.mp inner, ?_⟩
  exact ⟨List.replicate 199 'a', 'é', [], rfl, by decide +kernel, by decide +kernel⟩

end Gvpn
