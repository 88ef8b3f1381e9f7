import DecisionBench.Script

/-!
# The schema of the benchmark

Eight tables, their definition script, and the data file that belongs to each.  The script has
primary keys only, so that tables may be loaded in any order and the same definitions also serve
for temporary tables.
-/

namespace DecisionBench

/-- A table of the benchmark. -/
inductive Table where
  | nation
  | region
  | part
  | supplier
  | partsupp
  | customer
  | orders
  | lineitem
  deriving DecidableEq, Repr

namespace Table

def all : List Table :=
  [.nation, .region, .part, .supplier, .partsupp, .customer, .orders, .lineitem]

def name : Table → String
  | .nation => "nation"
  | .region => "region"
  | .part => "part"
  | .supplier => "supplier"
  | .partsupp => "partsupp"
  | .customer => "customer"
  | .orders => "orders"
  | .lineitem => "lineitem"

/-- The table with a name. -/
def ofName? (name : String) : Option Table :=
  all.find? fun table => table.name == name

/-- The data file that the generator writes for a table. -/
def fileName (table : Table) : String :=
  table.name ++ ".csv"

end Table

namespace Schema

/-- The definitions of the eight tables. -/
def script : String := "
CREATE TABLE IF NOT EXISTS nation (
    n_nationkey  INTEGER NOT NULL,
    n_name       CHAR(25) NOT NULL,
    n_regionkey  INTEGER NOT NULL,
    n_comment    VARCHAR(152),
    PRIMARY KEY (n_nationkey)
);

CREATE TABLE IF NOT EXISTS region (
    r_regionkey  INTEGER NOT NULL,
    r_name       CHAR(25) NOT NULL,
    r_comment    VARCHAR(152),
    PRIMARY KEY (r_regionkey)
);

CREATE TABLE IF NOT EXISTS part (
    p_partkey     INTEGER NOT NULL,
    p_name        VARCHAR(55) NOT NULL,
    p_mfgr        CHAR(25) NOT NULL,
    p_brand       CHAR(10) NOT NULL,
    p_type        VARCHAR(25) NOT NULL,
    p_size        INTEGER NOT NULL,
    p_container   CHAR(10) NOT NULL,
    p_retailprice DECIMAL(15,2) NOT NULL,
    p_comment     VARCHAR(23) NOT NULL,
    PRIMARY KEY (p_partkey)
);

CREATE TABLE IF NOT EXISTS supplier (
    s_suppkey     INTEGER NOT NULL,
    s_name        CHAR(25) NOT NULL,
    s_address     VARCHAR(40) NOT NULL,
    s_nationkey   INTEGER NOT NULL,
    s_phone       CHAR(15) NOT NULL,
    s_acctbal     DECIMAL(15,2) NOT NULL,
    s_comment     VARCHAR(101) NOT NULL,
    PRIMARY KEY (s_suppkey)
);

CREATE TABLE IF NOT EXISTS partsupp (
    ps_partkey     INTEGER NOT NULL,
    ps_suppkey     INTEGER NOT NULL,
    ps_availqty    INTEGER NOT NULL,
    ps_supplycost  DECIMAL(15,2) NOT NULL,
    ps_comment     VARCHAR(199) NOT NULL,
    PRIMARY KEY (ps_partkey, ps_suppkey)
);

CREATE TABLE IF NOT EXISTS customer (
    c_custkey     INTEGER NOT NULL,
    c_name        VARCHAR(25) NOT NULL,
    c_address     VARCHAR(40) NOT NULL,
    c_nationkey   INTEGER NOT NULL,
    c_phone       CHAR(15) NOT NULL,
    c_acctbal     DECIMAL(15,2) NOT NULL,
    c_mktsegment  CHAR(10) NOT NULL,
    c_comment     VARCHAR(117) NOT NULL,
    PRIMARY KEY (c_custkey)
);

CREATE TABLE IF NOT EXISTS orders (
    o_orderkey       BIGINT NOT NULL,
    o_custkey        INTEGER NOT NULL,
    o_orderstatus    CHAR(1) NOT NULL,
    o_totalprice     DECIMAL(15,2) NOT NULL,
    o_orderdate      DATE NOT NULL,
    o_orderpriority  CHAR(15) NOT NULL,
    o_clerk          CHAR(15) NOT NULL,
    o_shippriority   INTEGER NOT NULL,
    o_comment        VARCHAR(79) NOT NULL,
    PRIMARY KEY (o_orderkey)
);

CREATE TABLE IF NOT EXISTS lineitem (
    l_orderkey       BIGINT NOT NULL,
    l_partkey        INTEGER NOT NULL,
    l_suppkey        INTEGER NOT NULL,
    l_linenumber     INTEGER NOT NULL,
    l_quantity       DECIMAL(15,2) NOT NULL,
    l_extendedprice  DECIMAL(15,2) NOT NULL,
    l_discount       DECIMAL(15,2) NOT NULL,
    l_tax            DECIMAL(15,2) NOT NULL,
    l_returnflag     CHAR(1) NOT NULL,
    l_linestatus     CHAR(1) NOT NULL,
    l_shipdate       DATE NOT NULL,
    l_commitdate     DATE NOT NULL,
    l_receiptdate    DATE NOT NULL,
    l_shipinstruct   CHAR(25) NOT NULL,
    l_shipmode       CHAR(10) NOT NULL,
    l_comment        VARCHAR(44) NOT NULL,
    PRIMARY KEY (l_orderkey, l_linenumber)
);
"

/-- Creates the tables that do not exist. -/
def create : Procedure Unit := do
  Script.run script
  Journal.tell .information .schema
    ("Schema ready (" ++ toString Table.all.length ++ " tables)")

end Schema

end DecisionBench
