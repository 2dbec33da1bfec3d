import Reftest.Proofs.Text.Replacement
import Reftest.Run.Settings

namespace Reftest.Run

theorem ofText_address (page : String) (log : Octets) :
    Octets.ofText (address page log) =
      Octets.ofText page ++ Octets.ofText "#logurl=" ++ log.repaired := by
  rw [address, Octets.ofText_append, Octets.ofText_append]
  rfl

theorem address_injective {page : String} {log log' : Octets} (hlog : Utf8.Valid log)
    (hlog' : Utf8.Valid log') (h : address page log = address page log') : log = log' := by
  have hrepaired : log.repaired = log'.repaired := by
    have haddress := (ofText_address page log).symm.trans (h ▸ ofText_address page log')
    exact List.append_cancel_left haddress
  rw [Octets.repaired_of_valid hlog, Octets.repaired_of_valid hlog'] at hrepaired
  exact hrepaired

/-- The address is the page, the mark of its fragment and the path of the log, in which nothing but
what is ill-formed was replaced. -/
theorem address_repairs_log (page : String) :
    (∀ log, Octets.ofText (address page log) =
      Octets.ofText page ++ Octets.ofText "#logurl=" ++ log.repaired) ∧
    Utf8.Repairs Octets.repaired ∧
    ∀ log log', Utf8.Valid log → Utf8.Valid log' → address page log = address page log' →
      log = log' := by
  refine ⟨ofText_address page, Octets.repairs_repaired, ?_⟩
  intro log log' hlog hlog' h
  exact address_injective hlog hlog' h

end Reftest.Run
