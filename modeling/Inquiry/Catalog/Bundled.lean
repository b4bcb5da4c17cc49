import Inquiry.Catalog.Basic

/-!
# The bundled catalog

The common record types of a business: parties, items, and the documents of
selling, buying and making.  It is used when no catalog file is given.
-/

set_option autoImplicit false

namespace Inquiry

/-- The bundled entities. -/
def bundledEntities : List Entity :=
  [{ name := "Customer",
      fields :=
        [{ name := "customer_name", type := .data, nullable := false,
           label := some "Customer Name" },
         { name := "customer_type", type := .choice, options := some "Company\nIndividual" },
         { name := "customer_group", type := .link, options := some "Customer Group" },
         { name := "territory", type := .link, options := some "Territory" },
         { name := "email_id", type := .data },
         { name := "mobile_no", type := .data },
         { name := "disabled", type := .check }],
      aliases := ["client", "buyer"] },
    { name := "Supplier",
      fields :=
        [{ name := "supplier_name", type := .data, nullable := false },
         { name := "supplier_group", type := .link, options := some "Supplier Group" },
         { name := "country", type := .link, options := some "Country" },
         { name := "disabled", type := .check }] },
    { name := "Item",
      fields :=
        [{ name := "item_code", type := .data, nullable := false },
         { name := "item_name", type := .data },
         { name := "item_group", type := .link, options := some "Item Group" },
         { name := "stock_uom", type := .link, options := some "UOM" },
         { name := "standard_rate", type := .currency },
         { name := "is_stock_item", type := .check }],
      aliases := ["product", "sku"] },
    { name := "Sales Order",
      fields :=
        [{ name := "customer", type := .link, nullable := false, options := some "Customer" },
         { name := "transaction_date", type := .date, nullable := false },
         { name := "delivery_date", type := .date },
         { name := "status", type := .choice,
           options := some "Draft\nTo Deliver and Bill\nCompleted\nCancelled" },
         { name := "territory", type := .link, options := some "Territory" },
         { name := "total_qty", type := .float },
         { name := "grand_total", type := .currency },
         { name := "per_delivered", type := .percent }] },
    { name := "Sales Invoice",
      fields :=
        [{ name := "customer", type := .link, nullable := false, options := some "Customer" },
         { name := "posting_date", type := .date, nullable := false },
         { name := "due_date", type := .date },
         { name := "status", type := .choice,
           options := some "Draft\nUnpaid\nPaid\nOverdue\nCancelled" },
         { name := "grand_total", type := .currency },
         { name := "outstanding_amount", type := .currency }],
      aliases := ["bill"] },
    { name := "Purchase Order",
      fields :=
        [{ name := "supplier", type := .link, nullable := false, options := some "Supplier" },
         { name := "transaction_date", type := .date, nullable := false },
         { name := "schedule_date", type := .date },
         { name := "status", type := .choice,
           options := some "Draft\nTo Receive and Bill\nCompleted\nCancelled" },
         { name := "grand_total", type := .currency }] },
    { name := "Purchase Invoice",
      fields :=
        [{ name := "supplier", type := .link, nullable := false, options := some "Supplier" },
         { name := "posting_date", type := .date, nullable := false },
         { name := "status", type := .choice, options := some "Draft\nUnpaid\nPaid\nCancelled" },
         { name := "grand_total", type := .currency }],
      aliases := ["vendor invoice"] },
    { name := "Quotation",
      fields :=
        [{ name := "party_name", type := .data, nullable := false },
         { name := "transaction_date", type := .date, nullable := false },
         { name := "valid_till", type := .date },
         { name := "status", type := .choice,
           options := some "Draft\nOpen\nOrdered\nLost\nCancelled" },
         { name := "grand_total", type := .currency }],
      aliases := ["quote"] },
    { name := "Delivery Note",
      fields :=
        [{ name := "customer", type := .link, nullable := false, options := some "Customer" },
         { name := "posting_date", type := .date, nullable := false },
         { name := "status", type := .choice,
           options := some "Draft\nTo Bill\nCompleted\nCancelled" },
         { name := "grand_total", type := .currency }],
      aliases := ["shipment"] },
    { name := "Work Order",
      fields :=
        [{ name := "production_item", type := .link, nullable := false, options := some "Item" },
         { name := "qty", type := .float, nullable := false },
         { name := "produced_qty", type := .float },
         { name := "planned_start_date", type := .datetime },
         { name := "status", type := .choice,
           options := some "Draft\nNot Started\nIn Process\nCompleted\nStopped\nCancelled" }] },
    { name := "Payment Entry",
      fields :=
        [{ name := "payment_type", type := .choice, nullable := false,
           options := some "Receive\nPay\nInternal Transfer" },
         { name := "party_type", type := .link, options := some "DocType" },
         { name := "party", type := .data },
         { name := "posting_date", type := .date, nullable := false },
         { name := "paid_amount", type := .currency }],
      aliases := ["payment"] },
    { name := "Sales Person",
      fields :=
        [{ name := "sales_person_name", type := .data, nullable := false },
         { name := "employee", type := .link, options := some "Employee" },
         { name := "enabled", type := .check }] }]

/-- The bundled catalog. -/
def Catalog.bundled : Except CatalogFault Catalog :=
  Catalog.ofEntities bundledEntities

end Inquiry
