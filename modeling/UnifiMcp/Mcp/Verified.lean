import UnifiMcp.Mcp.FirewallUpdate
import UnifiMcp.Mcp.RecordUpdates
/-! # What `verified` means

For each of the three field updates, a readback behind an accepted write is judged: `verified` is
true exactly when every requested value shows and no other property moved.

* `updates_judged` — **the three tools judge their readbacks.**
* `refused_readback_unjudged` — a record the reader refuses carries no verdict. -/
namespace UnifiMcp
open Text

/-- The record a WLAN write finds. -/
def sampleWlan : SortedMap Text Json :=
  (SortedMap.empty.insert "_id".toList (.string "w1".toList)).insert "name".toList (.string "Home".toList)

/-- The renamed record, with an ill-typed flag. -/
def illTypedWlan : SortedMap Text Json :=
  (sampleWlan.insert "name".toList (.string "House".toList)).insert "hide_ssid".toList (.string "no".toList)

def sampleReader : LegacyReader := ⟨fun _ => [], fun _ => [], fun _ => []⟩

def renameInput : WlansUpdateInput := ⟨"w1".toList, ⟨some "House".toList, none, none, none, none, none⟩, some true⟩

/-- **The three tools judge their readbacks.** -/
theorem updates_judged (integration : IntegrationClient) (reader : LegacyReader)
    (hliteral : ∀ b, integration.fromStr (Json.bool b).write = some (.bool b)) :
    (∀ (input : WlansUpdateInput) (answers : RecordAnswers) (before after body : SortedMap Text Json) (status : Nat)
      (response bytes afterBytes : Bytes), (wlansUpdate reader input answers).sent = some body →
      answers.before = .ok ([before], bytes) → answers.write = .ok (status, response) →
      answers.after = .answered (.ok ([after], afterBytes)) →
      ∃ output, (wlansUpdate reader input answers).result = .ok output ∧
        Judged (requestedFields input.changes) body some before after (before.extendWith id body)
          (recordShown wlanTool input.wlan after) output.report) ∧
    (∀ (input : PortForwardsUpdateInput) (answers : RecordAnswers) (before after body : SortedMap Text Json) (status : Nat)
      (response bytes afterBytes : Bytes), (portForwardsUpdate reader input answers).sent = some body →
      answers.before = .ok ([before], bytes) → answers.write = .ok (status, response) →
      answers.after = .answered (.ok ([after], afterBytes)) →
      ∃ output, (portForwardsUpdate reader input answers).result = .ok output ∧
        Judged (requestedPortForwardFields input.changes) body some before after (before.extendWith id body)
          (recordShown portForwardTool input.portForward after) output.report) ∧
    (∀ (input : FirewallPoliciesUpdateInput) (answers : PolicyAnswers) (before after : SortedMap Text Text)
      (write : PolicyRequest) (status : Nat) (response bytes afterBytes : Bytes),
      write ∈ (firewallPoliciesUpdate integration input answers).writes →
      answers.before = .ok (before, bytes) → answers.write = .ok (status, response) →
      answers.after = .answered (.ok (after, afterBytes)) →
      ∃ output, (firewallPoliciesUpdate integration input answers).outcome = .returned (.ok output) ∧
        Judged (requestedFlags input.changes) (requestedFlags input.changes) integration.fromStr before after
          (write.body.apply before) (policyShown integration input.policy after) output.report) :=
  ⟨fun _ _ _ _ _ _ _ _ _ hsent hbefore hwrite hafter => record_judged wlan_coherent hsent hbefore hwrite hafter,
    fun _ _ _ _ _ _ _ _ _ hsent hbefore hwrite hafter => record_judged port_forward_coherent hsent hbefore hwrite hafter,
    fun _ _ _ _ _ _ _ _ _ hsent hbefore hwrite hafter => policy_judged hliteral hsent hbefore hwrite hafter⟩

/-- A rename the controller carries out is verified. -/
theorem updates_judged_rename : ∃ output,
    (wlansUpdate sampleReader renameInput ⟨.ok ([sampleWlan], []), .ok (200, []),
      .answered (.ok ([sampleWlan.extendWith id (wlanPatch renameInput.changes).toValue], []))⟩).result = .ok output ∧
    output.verified = some true := by
  have hliteral : ∀ b, sampleIntegration.fromStr (Json.bool b).write = some (.bool b) := by
    intro b
    cases b <;> decide +kernel
  obtain ⟨output, hresult, hjudged⟩ := (updates_judged sampleIntegration sampleReader hliteral).1 renameInput
    ⟨.ok ([sampleWlan], []), .ok (200, []),
      .answered (.ok ([sampleWlan.extendWith id (wlanPatch renameInput.changes).toValue], []))⟩
    sampleWlan _ (wlanPatch renameInput.changes).toValue 200 [] [] [] rfl rfl rfl rfl
  exact ⟨output, hresult, hjudged.exact rfl⟩

/-- A record the reader refuses carries no verdict, whatever moved in it. -/
theorem refused_readback_unjudged : ¬∀ (reader : LegacyReader) (input : WlansUpdateInput) (answers : RecordAnswers)
    (before after body : SortedMap Text Json) (status : Nat) (response bytes afterBytes : Bytes) (property : Text),
    (wlansUpdate reader input answers).sent = some body → answers.before = .ok ([before], bytes) →
    answers.write = .ok (status, response) → answers.after = .answered (.ok ([after], afterBytes)) →
    body.find? property = none → before.find? property ≠ after.find? property →
    ∃ output named, (wlansUpdate reader input answers).result = .ok output ∧ output.verified = some false ∧
      output.unexpectedChanges = some named ∧ property ∈ named := by
  intro h
  obtain ⟨output, named, hresult, hfalse, -⟩ := h sampleReader renameInput
    ⟨.ok ([sampleWlan], []), .ok (200, []), .answered (.ok ([illTypedWlan], []))⟩ sampleWlan illTypedWlan
    (wlanPatch renameInput.changes).toValue 200 [] [] [] "hide_ssid".toList rfl rfl rfl rfl rfl (by decide +kernel)
  have hnone : (wlansUpdate sampleReader renameInput
      ⟨.ok ([sampleWlan], []), .ok (200, []), .answered (.ok ([illTypedWlan], []))⟩).result.toOption.bind
        RecordUpdateOutput.verified = none := by decide +kernel
  rw [hresult] at hnone
  cases hfalse.symm.trans hnone

end UnifiMcp
