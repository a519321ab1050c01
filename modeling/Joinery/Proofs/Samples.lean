import Joinery.Proofs.Spelling

/-! Two models at which statements about all models are instantiated: sellers, and the companies that
they belong to. -/
namespace Joinery
namespace Sample

def companyModel : Model :=
  ⟨"Company", "companies", "id", some "deleted_at"⟩

def companyName : Field :=
  .ofName companyModel "Name"

def company : Entity :=
  ⟨companyModel, [.ofName companyModel "Id", companyName]⟩

def sellerModel : Model :=
  ⟨"Seller", "sellers", "id", none⟩

def sellerName : Field :=
  .ofName sellerModel "Name"

def seller : Entity :=
  ⟨sellerModel, [.ofName sellerModel "Id", sellerName, .ofName sellerModel "CompanyId"]⟩

def employer : Relation :=
  ⟨sellerModel, "Company", company, "company_id", "id"⟩

def holding : Relation :=
  ⟨companyModel, "Holding", company, "holding_id", "id"⟩

def names : List String :=
  ["companies", "sellers", "id", "deleted_at", "company_id"]

variable {ok : Char → Bool}

theorem spelled_companyModel (h : ∀ s ∈ names, Spelled ok s) : companyModel.Spelled ok where
  table := h "companies" (by decide)
  primaryKey := h "id" (by decide)
  deletedAt := fun _ hmark => Option.some.inj hmark ▸ h "deleted_at" (by decide)

theorem spelled_sellerModel (h : ∀ s ∈ names, Spelled ok s) : sellerModel.Spelled ok where
  table := h "sellers" (by decide)
  primaryKey := h "id" (by decide)
  deletedAt := fun _ hmark => nomatch hmark

theorem spelled_field {m : Model} (hm : m.Spelled ok) (name : String) (calls : List FunctionCall) :
    ({ Field.ofName m name with functions := calls } : Field).Spelled ok :=
  ⟨hm, fun _ h => nomatch h⟩

theorem spelled_company (h : ∀ s ∈ names, Spelled ok s) : company.Spelled ok := by
  have hmodel := spelled_companyModel h
  refine ⟨hmodel, ?_⟩
  simpa [company] using ⟨spelled_field hmodel _ [], spelled_field hmodel _ []⟩

theorem spelled_seller (h : ∀ s ∈ names, Spelled ok s) : seller.Spelled ok := by
  have hmodel := spelled_sellerModel h
  refine ⟨hmodel, ?_⟩
  simpa [seller] using ⟨spelled_field hmodel _ [], spelled_field hmodel _ [], spelled_field hmodel _ []⟩

theorem spelled_employer (h : ∀ s ∈ names, Spelled ok s) : employer.Spelled ok :=
  ⟨spelled_company h, h "company_id" (by decide), h "id" (by decide)⟩

end Sample
end Joinery
