import PriceOverlay.Controller.Configuration
import PriceOverlay.Proofs.Prometheus.Selector
import PriceOverlay.Proofs.Settings.Reprinting
/-!
# Text settings from the environment

Four fields of the configuration are texts. A variable sets its field over anything in the file,
but what the field then holds is the value as it is printed again: an address, which has a colon, is
always kept, while an account whose digits begin with zeros loses them, and all queries are for
another account.

**Results**
* `Configuration.of_load`: what a field holds that a variable sets.
* `Configuration.text_settings_reprinted`: so when it holds the value of the variable, and which
  account the queries are for.
-/
namespace PriceOverlay

/-- The fields of a configuration that are texts. -/
inductive TextField where
  | prometheusUrl
  | account
  | deploymentNamespace
  | deploymentName
  deriving DecidableEq, Repr

namespace TextField

/-- The key of the field in a table of settings. -/
def key : TextField → String
  | prometheusUrl => "prometheus_url"
  | account => "account_id"
  | deploymentNamespace => "controller_namespace"
  | deploymentName => "controller_deployment"

/-- The variable that sets the field. -/
def variableName : TextField → String
  | prometheusUrl => "OVERLAY_PROMETHEUS_URL"
  | account => "OVERLAY_ACCOUNT_ID"
  | deploymentNamespace => "OVERLAY_CONTROLLER_NAMESPACE"
  | deploymentName => "OVERLAY_CONTROLLER_DEPLOYMENT"

/-- What a configuration holds in the field. -/
def of (c : Configuration) : TextField → Option String
  | prometheusUrl => some c.prometheusUrl
  | account => c.account
  | deploymentNamespace => c.deploymentNamespace
  | deploymentName => c.deploymentName

theorem key?_variableName (f : TextField) : Environment.key? f.variableName = some f.key := by
  cases f <;> decide

theorem isPlain_key (f : TextField) : KeyStep.IsPlain f.key := by
  cases f <;> decide

end TextField

/-! ## Reading the fields -/

theorem Setting.exists_of_optional? {α : Type} {read : Setting → Option α} {s : Setting}
    {o : Option α} (h : optional? read s = some o) (hnull : s ≠ .null) :
    ∃ a, read s = some a ∧ o = some a := by
  unfold optional? at h
  split at h
  · exact absurd rfl hnull
  · obtain ⟨a, ha, rfl⟩ := Option.map_eq_some_iff.1 h
    exact ⟨a, ha, rfl⟩

namespace Configuration

/-- A setting that is there is read as a text. -/
theorem of_ofSetting? {s x : Setting} {c : Configuration} (h : ofSetting? s = some c)
    (f : TextField) (hx : s.get? f.key = some x) (hnull : x ≠ .null) :
    ∃ t, x.text? = some t ∧ f.of c = some t := by
  simp only [ofSetting?, Option.bind_eq_bind, Option.bind_eq_some_iff, Option.pure_def,
    Option.some.injEq] at h
  obtain ⟨_, -, url, hurl, account, haccount, _, -, _, -, _, -, _, -, _, -,
    deploymentNamespace, hnamespace, deploymentName, hname, _, -, rfl⟩ := h
  cases f with
  | prometheusUrl =>
    rw [show s.get? "prometheus_url" = some x from hx] at hurl
    exact ⟨url, hurl, rfl⟩
  | account =>
    rw [show s.get? "account_id" = some x from hx] at haccount
    exact Setting.exists_of_optional? haccount hnull
  | deploymentNamespace =>
    rw [show s.get? "controller_namespace" = some x from hx] at hnamespace
    exact Setting.exists_of_optional? hnamespace hnull
  | deploymentName =>
    rw [show s.get? "controller_deployment" = some x from hx] at hname
    exact Setting.exists_of_optional? hname hnull

theorem exists_of_settings? {file : Option SettingsFile} {vs : Environment.Variables} {s : Setting}
    (h : settings? file vs = .ok s) :
    ∃ t, s = (Environment.settings vs).entries.foldl (fun s e => s.set e.1 e.2) t := by
  unfold settings? at h
  dsimp only at h
  split at h
  · cases h
  · exact ⟨_, (Except.ok.inj h).symm⟩

/-- What is loaded was read of settings among which those of the environment were set last. -/
theorem ofSetting?_of_load {file : Option SettingsFile} {vs : Environment.Variables}
    {c : Configuration} (h : load file vs = .ok c) :
    ∃ t, ofSetting? ((Environment.settings vs).entries.foldl (fun s e => s.set e.1 e.2) t) =
      some c := by
  unfold load at h
  cases hs : settings? file vs with
  | error e =>
    rw [hs] at h
    cases h
  | ok s =>
    obtain ⟨t, rfl⟩ := exists_of_settings? hs
    refine ⟨t, ?_⟩
    rw [hs] at h
    dsimp only [bind, Except.bind] at h
    split at h
    · cases h
    · rename_i d hd
      rw [hd]
      split at h
      · cases h
      · cases h
        rfl

/-- What a field holds that a variable sets, whatever is in the file. -/
theorem of_load {file : Option SettingsFile} {vs : Environment.Variables} {c : Configuration}
    (h : load file vs = .ok c) (f : TextField) {v : String}
    (hv : Environment.value? vs f.variableName = some v) :
    f.of c = some (Environment.reprinted v) := by
  obtain ⟨t, ht⟩ := ofSetting?_of_load h
  rcases Environment.kept_of_value? f.key?_variableName f.isPlain_key hv t with
    hkept | ⟨x, hx, hcollection⟩
  · have hnull : Environment.setting v ≠ .null := by
      intro hnull
      have htext := Environment.text?_setting v
      rw [hnull] at htext
      cases htext
    obtain ⟨text, htext, hfield⟩ := of_ofSetting? ht f hkept hnull
    rw [Environment.text?_setting] at htext
    rw [hfield, ← htext]
  · -- a longer key has made a collection of the setting, which is refused
    have hnull : x ≠ .null := by
      rintro rfl
      cases hcollection
    obtain ⟨text, htext, -⟩ := of_ofSetting? ht f hx hnull
    rw [Setting.text?_of_isCollection hcollection] at htext
    cases htext

/-- An address, which has a colon, is taken as it is. -/
theorem of_load_of_colon {file : Option SettingsFile} {vs : Environment.Variables}
    {c : Configuration} (h : load file vs = .ok c) (f : TextField) {v : String}
    (hv : Environment.value? vs f.variableName = some v) (hcolon : ':' ∈ v.toList) :
    f.of c = some v := by
  have hverbatim : Environment.Verbatim v :=
    Environment.verbatim_of_mem hcolon (by decide) (by decide) (by decide)
  rw [of_load h f hv, Environment.reprinted_eq_self_iff.2 hverbatim]

/-- An account of twelve digits is taken as it is unless it begins with a zero. -/
theorem account_iff_of_isDigits {file : Option SettingsFile} {vs : Environment.Variables}
    {c : Configuration} (h : load file vs = .ok c) {v : String}
    (hv : Environment.value? vs TextField.account.variableName = some v)
    (hdigits : Decimal.isDigits v.toList = true) (hlength : v.toList.length = 12) :
    c.account = some v ↔ v.toList.head? ≠ some '0' := by
  have hne : v ≠ "0" := by
    rintro rfl
    exact absurd hlength (by decide)
  have hread : c.account = some (Environment.reprinted v) := of_load h .account hv
  rw [hread, Option.some.injEq, Environment.reprinted_eq_self_iff,
    Environment.verbatim_iff_of_isDigits hdigits (by omega), or_iff_right hne]

/-- **Text settings.** In every configuration that is loaded, a text field whose variable is set
holds the text that the value is printed as, so it holds the value itself if and only if that is
written as it is printed. Every query of a client for this configuration is for the account printed
in this way. -/
theorem text_settings_reprinted {file : Option SettingsFile} {vs : Environment.Variables}
    {c : Configuration} (hload : load file vs = .ok c) :
    (∀ (f : TextField) {v : String}, Environment.value? vs f.variableName = some v →
      f.of c = some (Environment.reprinted v) ∧ (f.of c = some v ↔ Environment.Verbatim v)) ∧
    ∀ {v : String}, Environment.value? vs TextField.account.variableName = some v → v ≠ "" →
      ∀ {client : Prometheus.Client},
      Prometheus.Client.ofUrl c.prometheusUrl c.account = .ok client →
      ∀ (metric : String) {labels : List (String × String)},
      (∀ l ∈ labels, Prometheus.isIdentifier l.1.toList = true) →
      ∃ text, (Prometheus.selector metric labels client.account).toList = metric.toList ++ text ∧
        Prometheus.readBraces? text =
          some (labels ++ [("account_id", Environment.reprinted v)]) := by
  constructor
  · intro f v hv
    have hfield := of_load hload f hv
    refine ⟨hfield, ?_⟩
    rw [hfield, Option.some.injEq, Environment.reprinted_eq_self_iff]
  · intro v hv hne client hclient metric labels named
    have haccount : c.account = some (Environment.reprinted v) := of_load hload .account hv
    have hmatcher : Prometheus.accountMatcher c.account =
        [("account_id", Environment.reprinted v)] := by
      rw [haccount]
      exact if_neg (Environment.reprinted_ne_empty hne)
    obtain ⟨text, htext, hread, -⟩ := Prometheus.exists_text_selector hclient metric named
    exact ⟨text, htext, hmatcher ▸ hread⟩

/-- An account that begins with a zero, set over another one, and the address for the queries. -/
def zeroAccount : Environment.Variables :=
  [("overlay_account_id", "5"), ("OVERLAY_ACCOUNT_ID", "012345678901"),
    ("OVERLAY_PROMETHEUS_URL", "http://[::1]:9090")]

/-- A file with a third account. -/
def accountFile : SettingsFile := ⟨.toml, "account_id = \"7\"\n"⟩

theorem exists_load_zeroAccount : ∃ c, load (some accountFile) zeroAccount = .ok c := by
  have hloaded : (load (some accountFile) zeroAccount).toBool = true := by decide +kernel
  cases h : load (some accountFile) zeroAccount with
  | error e =>
    rw [h] at hloaded
    cases hloaded
  | ok c => exact ⟨c, rfl⟩

theorem text_settings_reprinted_zeroAccount :
    ∃ c client, load (some accountFile) zeroAccount = .ok c ∧
      c.prometheusUrl = "http://[::1]:9090" ∧ c.account = some "12345678901" ∧
      Prometheus.Client.ofUrl c.prometheusUrl c.account = .ok client ∧
      ∃ text, (Prometheus.selector "up" [("type", "compute")] client.account).toList =
          "up".toList ++ text ∧
        Prometheus.readBraces? text = some [("type", "compute"), ("account_id", "12345678901")] := by
  obtain ⟨c, hload⟩ := exists_load_zeroAccount
  have hurl : Environment.value? zeroAccount "OVERLAY_PROMETHEUS_URL" =
    some "http://[::1]:9090" := by decide +kernel
  have hvalue : Environment.value? zeroAccount "OVERLAY_ACCOUNT_ID" =
    some "012345678901" := by decide +kernel
  have hkept : Environment.reprinted "http://[::1]:9090" = "http://[::1]:9090" := by
    decide +kernel
  have hlost : Environment.reprinted "012345678901" = "12345678901" := by decide +kernel
  have haddress : c.prometheusUrl = "http://[::1]:9090" := by
    rw [← hkept]
    exact Option.some.inj ((text_settings_reprinted hload).1 .prometheusUrl hurl).1
  have haccount : c.account = some "12345678901" := by
    rw [← hlost]
    exact ((text_settings_reprinted hload).1 .account hvalue).1
  have hclient : Prometheus.Client.ofUrl c.prometheusUrl c.account =
      .ok ⟨"http", "/api/v1/query", some "12345678901"⟩ := by
    rw [haddress, haccount]
    rfl
  have hnamed : ∀ l ∈ [("type", "compute")], Prometheus.isIdentifier l.1.toList = true := by decide
  obtain ⟨text, htext, hread⟩ :=
    (text_settings_reprinted hload).2 hvalue (by decide) hclient "up" hnamed
  rw [hlost] at hread
  exact ⟨c, _, hload, haddress, haccount, hclient, text, htext, hread⟩

/-- Values are not taken as they are. -/
theorem not_all_taken :
    ¬ ∀ (file : Option SettingsFile) (vs : Environment.Variables) (c : Configuration)
      (f : TextField) (v : String), v ≠ "" → Environment.value? vs f.variableName = some v →
      load file vs = .ok c → f.of c = some v := by
  intro hall
  have hload : load none [("OVERLAY_ACCOUNT_ID", "012345678901")] =
    .ok { account := some "12345678901" } := rfl
  have hfield := hall none _ _ .account "012345678901" (by decide) (by decide) hload
  exact absurd hfield (by decide : some "12345678901" ≠ some "012345678901")

end Configuration
end PriceOverlay
