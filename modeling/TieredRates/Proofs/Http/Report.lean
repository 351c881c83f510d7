import TieredRates.Http.Router
import TieredRates.Proofs.Currency
import TieredRates.Proofs.Resolution.Refusal

namespace TieredRates

open Json

namespace Tiers

variable {κ σ π : Type} [SharedCache κ] [RateStore σ] [LiveSource π]
variable {t : Tiers κ σ π} {p : Policy} {now : Instant} {mode : Mode} {c : CurrencyCode}

end Tiers

namespace Http

variable {κ σ π : Type} [SharedCache κ] [RateStore σ] [LiveSource π]

variable {t : Tiers κ σ π} {p : Policy} {now : Instant} {c : CurrencyCode}

end Http

end TieredRates
