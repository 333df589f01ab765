import Balii.Chatbot.Retrieval
import Balii.Config
/-!
# Chatbot.Knowledge — the documents the chatbot answers from

Four documents that are always there, and one for each active product: its texts, its price, its sizes and colours and its first
twelve variants in one paragraph.
-/
namespace Balii.Chatbot

/-- What the runtime brings along. -/
structure Runtime where
  /-- `value.toLocaleString('vi-VN')`. -/
  localeText : JsNumber → String
  /-- `createHash('sha1').update(input).digest('hex')`. -/
  sha1 : String → String
  /-- `createHash('sha256').update(input).digest()`. -/
  sha256 : String → List UInt8

structure KnowledgeDocument where
  id : String
  type : DocumentType
  title : String
  content : String
  metadata : Option Json
  deriving DecidableEq

def staticKnowledge : List KnowledgeDocument :=
  [⟨"faq-size", .faq, "Hướng dẫn chọn size",
    "Khi tư vấn size, hãy ưu tiên hỏi chiều cao, cân nặng và form mặc mong muốn. Nếu chưa đủ dữ liệu, hãy gợi ý khách xem bảng size chi tiết tại trang sản phẩm trước khi đặt.",
    none⟩,
   ⟨"faq-material", .faq, "Tư vấn chất liệu",
    "Các câu hỏi về chất liệu nên tập trung vào độ mềm, độ thoáng, cảm giác khi mặc ngủ và mức độ phù hợp theo mùa. Không tự khẳng định các tính năng y khoa hoặc da liễu.",
    none⟩,
   ⟨"policy-order", .policy, "Chính sách đặt hàng",
    "Chatbot chỉ nên hỗ trợ tư vấn sản phẩm, tìm sản phẩm phù hợp, giải thích thông tin cơ bản và chuyển khách sang trang sản phẩm. Các vấn đề đơn hàng cụ thể cần điều hướng sang trang tài khoản hoặc bộ phận hỗ trợ.",
    none⟩,
   ⟨"policy-tone", .policy, "Nguyên tắc phản hồi",
    "Phản hồi ngắn gọn, thân thiện, dịu dàng và bằng tiếng Việt tự nhiên. Nếu thiếu dữ liệu, hãy nói rõ giới hạn một cách mềm mại và khuyến khích khách cung cấp thêm nhu cầu như chất liệu, mức giá, kiểu dáng hoặc mùa sử dụng.",
    none⟩]

/-! ## Texts -/

/-- `value || other`. -/
def orElse (value other : String) : String := if value = "" then other else value

/-- `[...new Set(values.filter(Boolean))]`. -/
def distinctValues (values : List String) : List String := (values.filter (· != "")).eraseDups

def collectDistinctValues (variants : List ProductVariantContext) (field : ProductVariantContext → String) : List String :=
  distinctValues (variants.map field)

def formatGender (value : String) : String :=
  match (trim value).toLower with
  | "male" => "nam"
  | "female" => "nữ"
  | "kids" => "trẻ em"
  | "unisex" => "unisex"
  | _ => orElse value "chưa cập nhật"

def ageMap : List (String × String) :=
  [("0_2", "0-2 tuổi"), ("3_5", "3-5 tuổi"), ("6_12", "6-12 tuổi"), ("13_17", "13-17 tuổi"), ("18_25", "18-25 tuổi"),
    ("26_35", "26-35 tuổi"), ("36_45", "36-45 tuổi"), ("46_plus", "46 tuổi trở lên")]

def formatAgeGroup (value : String) : String :=
  let normalized := trim value
  orElse ((ageMap.lookup normalized).getD "") (orElse normalized "chưa cập nhật")

/-- `text` behind a label, nothing for an empty text. -/
def labelled (label text : String) : String := if text = "" then "" else label ++ " " ++ text

def formatVariantSummary (rt : Runtime) (variant : ProductVariantContext) (defaultPrice : JsNumber) : String :=
  let parts :=
    [labelled "SKU" variant.sku, labelled "size" variant.size, labelled "màu" variant.color, labelled "loại" variant.itemType,
      labelled "thuộc tính" variant.attributeSummary, "giá " ++ rt.localeText (variant.price.getD defaultPrice) ++ "đ",
      "tồn " ++ variant.stock.text].filter (· != "")
  ", ".intercalate parts

/-! ## Documents -/

def productContent (rt : Runtime) (product : ProductContext) : String :=
  let price := product.salePrice.getD product.price
  let sizes := collectDistinctValues product.variants (·.size)
  let colors := collectDistinctValues product.variants (·.color)
  let ageGroups := product.recommendedAgeGroups.map formatAgeGroup
  let variantSummary :=
    if product.variants.length ≠ 0 then
      " | ".intercalate ((product.variants.take 12).map fun variant => formatVariantSummary rt variant product.price)
    else "Chưa có dữ liệu biến thể chi tiết."
  product.name ++ ". " ++ orElse product.description "Chưa có mô tả chi tiết." ++ " " ++
    "Chất liệu: " ++ orElse product.material "chưa cập nhật" ++ ". " ++
    "Giá hiện tại: " ++ rt.localeText price ++ "đ. " ++
    "Giới tính phù hợp: " ++ formatGender product.targetGender ++ ". " ++
    "Độ tuổi phù hợp: " ++ orElse (", ".intercalate ageGroups) "chưa cập nhật" ++ ". " ++
    "Size đang có: " ++ orElse (", ".intercalate sizes) "chưa cập nhật" ++ ". " ++
    "Màu đang có: " ++ orElse (", ".intercalate colors) "chưa cập nhật" ++ ". " ++
    "Biến thể: " ++ variantSummary

def productMetadata (product : ProductContext) : List (String × Json) :=
  [("productId", .str product.id), ("slug", .str product.slug), ("thumbnail", .str product.thumbnail),
    ("price", .ofNumber (product.salePrice.getD product.price)), ("salePrice", (product.salePrice.map Json.ofNumber).getD .null),
    ("targetGender", .str product.targetGender), ("recommendedAgeGroups", .arr (product.recommendedAgeGroups.map .str)),
    ("sizes", .arr ((collectDistinctValues product.variants (·.size)).map .str)),
    ("colors", .arr ((collectDistinctValues product.variants (·.color)).map .str)),
    ("variantCount", .ofNumber (.num product.variants.length))]

def productDocument (rt : Runtime) (product : ProductContext) : KnowledgeDocument where
  id := "product-" ++ product.id
  type := .product
  title := product.name
  content := productContent rt product
  metadata := some (.obj (productMetadata product))

def buildKnowledgeDocuments (rt : Runtime) (products : List ProductContext) : List KnowledgeDocument :=
  staticKnowledge ++ products.map (productDocument rt)

/-! ## What each document has -/

theorem append_ne_empty {s t : String} (h : s ≠ "") : s ++ t ≠ "" := by
  intro happ
  exact h (String.append_eq_empty_iff.1 happ).1

theorem content_ne_empty (rt : Runtime) {products : List ProductContext} {d : KnowledgeDocument}
    (hd : d ∈ buildKnowledgeDocuments rt products) : d.content ≠ "" := by
  rcases List.mem_append.1 hd with hd | hd
  · have hstatic : ∀ d ∈ staticKnowledge, d.content ≠ "" := by simp [staticKnowledge]
    exact hstatic d hd
  · obtain ⟨product, -, rfl⟩ := List.mem_map.1 hd
    have hlast : "Biến thể: " ≠ "" := by decide
    intro hcontent
    exact hlast (String.append_eq_empty_iff.1 (String.append_eq_empty_iff.1 hcontent).1).2

end Balii.Chatbot
