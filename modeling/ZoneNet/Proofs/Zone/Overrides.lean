import ZoneNet.Zone.Config

/-!
# Overrides

The address list and the gateway of a network resource are attributes, and each may also be given
as an override. The override counts, unless it is missing or empty.

* `Net.addressList_eq` — the address list is the override that counts, or else the attribute.
* `Net.gateway_eq` — so is the gateway, and its attribute counts on the primary interface alone.
-/

namespace ZoneNet

/-- An override, or something else if it is missing or empty. -/
def chosen (override otherwise : Option String) : Option String :=
  match override with
  | none => otherwise
  | some text => if text = "" then otherwise else some text

variable {override otherwise : Option String}

theorem chosen_empty : chosen (some "") otherwise = otherwise := by
  rw [chosen, if_pos rfl]

theorem chosen_of_ne_empty {text : String} (h : text ≠ "") :
    chosen (some text) otherwise = some text := if_neg h

/-- To drop an empty override first is to choose. -/
theorem filter_orElse_eq_chosen :
    (override.filter (· ≠ "") <|> otherwise) = chosen override otherwise := by
  rcases override with _ | text
  · rfl
  · by_cases hempty : text = ""
    · rw [hempty, chosen_empty]
      rfl
    · rw [chosen_of_ne_empty hempty, Option.filter_some_pos (by simpa using hempty)]
      rfl

namespace Net

/-- The address list: the address override, or else the attribute `ips`. -/
def chosenList (net : Net) : Option String := chosen net.allowedAddress (net.attr "ips")

/-- The gateway: the router override, or else the attribute `gateway` of a primary interface. -/
def chosenGateway (net : Net) : Option String :=
  chosen net.defaultRouter (if net.attr "primary" = some "true" then net.attr "gateway" else none)

/-- A missing or empty override leaves the attribute, and any other one takes its place. -/
theorem addressList_eq (net : Net) : net.addressList = net.chosenList := filter_orElse_eq_chosen

theorem gateway_eq (net : Net) : net.gateway = net.chosenGateway := by
  rw [chosenGateway, ← filter_orElse_eq_chosen]
  unfold gateway router
  rcases net.defaultRouter.filter (· ≠ "") with _ | router
  · rfl
  · rfl

end Net

end ZoneNet
