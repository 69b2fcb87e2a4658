import BackOffice.Store.ScopeTables
import BackOffice.Store.Work

/-!
# Migrations

The steps that build the tables of each half of the shop, with the statements that a database runs
for them. Each has a version; a database notes the versions it has run, so that a step runs once.
The two halves have versions of their own, and each passes over those of the other, so both may
share one database.
-/

namespace BackOffice

/-- A step in building the tables. -/
structure Migration where
  /-- When the step was written, as a number that grows. -/
  version : Nat
  description : String
  sql : String
deriving DecidableEq, Repr

namespace Migration

/-- A text of lines. -/
def script (lines : List String) : String :=
  String.join (lines.map (· ++ "\n"))

def createUsers : Migration where
  version := 20260201000001
  description := "create users"
  sql := script [
    "-- Customer accounts.",
    "-- Default address pointers are added once the address table exists.",
    "",
    "CREATE SCHEMA IF NOT EXISTS storefront;",
    "",
    "CREATE TABLE storefront.user (",
    "    id SERIAL PRIMARY KEY,",
    "    first_name TEXT NOT NULL DEFAULT '',",
    "    last_name TEXT NOT NULL DEFAULT '',",
    "    created_at TIMESTAMPTZ NOT NULL DEFAULT NOW(),",
    "    updated_at TIMESTAMPTZ NOT NULL DEFAULT NOW()",
    ");"]

def createAddresses : Migration where
  version := 20260201000002
  description := "create addresses"
  sql := script [
    "-- Address book entries.",
    "-- An entry is unique by value within one user's book.",
    "",
    "CREATE TABLE storefront.address (",
    "    id UUID PRIMARY KEY,",
    "    user_id INTEGER NOT NULL REFERENCES storefront.user (id) ON DELETE CASCADE,",
    "    first_name TEXT NOT NULL DEFAULT '',",
    "    last_name TEXT NOT NULL DEFAULT '',",
    "    company_name TEXT NOT NULL DEFAULT '',",
    "    street_address_1 TEXT NOT NULL DEFAULT '',",
    "    street_address_2 TEXT NOT NULL DEFAULT '',",
    "    city TEXT NOT NULL DEFAULT '',",
    "    city_area TEXT NOT NULL DEFAULT '',",
    "    postal_code TEXT NOT NULL DEFAULT '',",
    "    country TEXT NOT NULL DEFAULT '',",
    "    country_area TEXT NOT NULL DEFAULT '',",
    "    phone TEXT NOT NULL DEFAULT '',",
    "    created_at TIMESTAMPTZ NOT NULL DEFAULT NOW(),",
    "    UNIQUE (id, user_id)",
    ");",
    "",
    "CREATE UNIQUE INDEX address_user_value_idx ON storefront.address (",
    "    user_id, first_name, last_name, company_name, street_address_1, street_address_2,",
    "    city, city_area, postal_code, country, country_area, phone",
    ");"]

/-- Gives users their pointers to default addresses. -/
def addDefaultAddresses : Migration where
  version := 20260201000003
  description := "add default addresses"
  sql := script [
    "-- Default billing/shipping pointers.",
    "-- The composite keys make it impossible to point at another user's address.",
    "-- Deleting the address clears only the pointer column (PostgreSQL 15+).",
    "",
    "ALTER TABLE storefront.user",
    "    ADD COLUMN default_billing_address_id UUID,",
    "    ADD COLUMN default_shipping_address_id UUID,",
    "    ADD CONSTRAINT user_default_billing_fk",
    "        FOREIGN KEY (default_billing_address_id, id)",
    "        REFERENCES storefront.address (id, user_id)",
    "        ON DELETE SET NULL (default_billing_address_id),",
    "    ADD CONSTRAINT user_default_shipping_fk",
    "        FOREIGN KEY (default_shipping_address_id, id)",
    "        REFERENCES storefront.address (id, user_id)",
    "        ON DELETE SET NULL (default_shipping_address_id);"]

def createVouchers : Migration where
  version := 20260202000001
  description := "create vouchers"
  sql := script [
    "-- Vouchers: discounts redeemed by code.",
    "",
    "CREATE SCHEMA IF NOT EXISTS admin;",
    "",
    "CREATE TYPE admin.voucher_type AS ENUM ('value', 'product', 'collection', 'category', 'shipping');",
    "CREATE TYPE admin.discount_value_type AS ENUM ('fixed', 'percentage');",
    "",
    "CREATE TABLE admin.voucher (",
    "    id SERIAL PRIMARY KEY,",
    "    voucher_type admin.voucher_type NOT NULL DEFAULT 'value',",
    "    name TEXT,",
    "    code TEXT NOT NULL UNIQUE,",
    "    usage_limit INTEGER CHECK (usage_limit >= 0),",
    "    used INTEGER NOT NULL DEFAULT 0 CHECK (used >= 0),",
    "    start_date DATE NOT NULL DEFAULT CURRENT_DATE,",
    "    end_date DATE,",
    "    discount_value_type admin.discount_value_type NOT NULL DEFAULT 'fixed',",
    "    discount_value NUMERIC NOT NULL DEFAULT 0 CHECK (discount_value >= 0),",
    "    min_amount_spent NUMERIC CHECK (min_amount_spent >= 0),",
    "    countries TEXT[] NOT NULL DEFAULT '\x7b\x7d',",
    "    created_at TIMESTAMPTZ NOT NULL DEFAULT NOW(),",
    "    updated_at TIMESTAMPTZ NOT NULL DEFAULT NOW(),",
    "    CHECK (end_date IS NULL OR end_date >= start_date)",
    ");"]

def createSales : Migration where
  version := 20260202000002
  description := "create sales"
  sql := script [
    "-- Sales: discounts applied automatically while active.",
    "",
    "CREATE TABLE admin.sale (",
    "    id SERIAL PRIMARY KEY,",
    "    name TEXT NOT NULL,",
    "    value_type admin.discount_value_type NOT NULL DEFAULT 'fixed',",
    "    value NUMERIC NOT NULL DEFAULT 0 CHECK (value >= 0),",
    "    start_date DATE NOT NULL DEFAULT CURRENT_DATE,",
    "    end_date DATE,",
    "    created_at TIMESTAMPTZ NOT NULL DEFAULT NOW(),",
    "    updated_at TIMESTAMPTZ NOT NULL DEFAULT NOW(),",
    "    CHECK (end_date IS NULL OR end_date >= start_date)",
    ");"]

def createDiscountScopes : Migration where
  version := 20260202000003
  description := "create discount scopes"
  sql := script ([
    "-- Catalogue scope of vouchers and sales.",
    "-- Catalogue ids refer to entities owned by the catalogue service, so they carry",
    "-- no foreign key. The composite primary keys make each scope a set."] ++
    ScopeTable.all.flatMap fun t => "" :: t.definition)

/-- The steps for a half, in order. -/
def steps : Half → List Migration
  | .storefront => [createUsers, createAddresses, addDefaultAddresses]
  | .admin => [createVouchers, createSales, createDiscountScopes]

/-- The table that the first step for a half builds, without its schema. -/
def firstTable : Half → String
  | .storefront => "user"
  | .admin => "voucher"

/-- Whether a database may have run steps that a half does not know. -/
def ignoresMissing : Half → Bool
  | .storefront | .admin => true

end Migration

end BackOffice
