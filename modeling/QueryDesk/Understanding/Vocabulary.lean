import QueryDesk.Query.Basic

/-!
# Vocabulary

The English and Chinese words and phrases that requests are understood by.  All are in lower
case and none is empty; a phrase is found wherever it occurs in a text, also inside a word.
-/

namespace QueryDesk.Vocabulary

def intentWords : Intent → List String
  | .statistics =>
    ["count", "sum", "how many", "number of", "total", "statistics", "统计", "统计数", "数量",
      "总数", "总计", "统计数据"]
  | .analysis =>
    ["analyze", "analyse", "analysis", "insight", "deep dive", "分析", "分析数据", "数据分析",
      "深入分析", "详细分析"]
  | .trend =>
    ["trend", "over time", "growth", "evolution", "趋势", "变化趋势", "发展趋势", "时间趋势",
      "历史趋势"]
  | .comparison =>
    ["compare", "comparison", "versus", " vs ", "difference", "对比", "比较", "对比分析", "差异",
      "差距"]
  | .filter =>
    ["filter", "find", "search", "where", "lookup", "list", "筛选", "过滤", "查找", "查询",
      "搜索", "筛选出"]
  | .aggregation =>
    ["aggregate", "group by", "grouped", "summarize", "roll up", "聚合", "汇总", "分组汇总",
      "分组统计"]
  | .ranking =>
    ["top", "rank", "ranking", "highest", "lowest", "best", "排名", "排序", "前几名", "排名靠前",
      "最高"]
  | .distribution =>
    ["distribution", "distributed", "proportion", "share of", "percentage", "分布", "分布情况",
      "分布分析", "占比", "比例"]
  | .correlation =>
    ["correlation", "correlate", "relationship", "related to", "相关性", "相关", "关联", "关系",
      "相关分析"]
  | .unknown => []

/-- Time ranges, the most specific first. -/
def timeRanges : List String :=
  ["last 7 days", "last 30 days", "past week", "past month", "this week", "last week",
    "this month", "last month", "this year", "last year", "yesterday", "today", "recent",
    "最近7天", "最近30天", "过去一周", "过去一个月", "本周", "上周", "本月", "上月", "今年",
    "去年", "昨天", "今天", "最近", "过去", "未来"]

def aggregateNames : List String :=
  ["sum", "average", "avg", "mean", "maximum", "minimum", "count", "total", "求和", "平均值",
    "平均", "均值", "最大", "最小", "计数", "总计"]

/-- The words for each entity, in order of preference. -/
def entityWords : List (Entity × List String) :=
  [(.user, ["user", "customer", "用户"]), (.order, ["order", "订单"]),
    (.product, ["product", "商品"])]

/-- The phrases that imply an equality on a field; only the first rule of a field applies, so a
longer phrase stands before one it contains. -/
def conditionRules : List (List String × String × Literal) :=
  [(["inactive", "未激活", "不活跃"], "status", .text "inactive"),
    (["active", "活跃"], "status", .text "active"),
    (["unpaid", "未支付"], "status", .text "unpaid"),
    (["paid", "已支付"], "status", .text "paid"),
    (["refunded", "refund", "退款"], "status", .text "refunded"),
    (["new user", "新用户"], "is_new", .int 1),
    (["vip", "会员"], "level", .text "vip")]

def groupingPhrases : List String :=
  ["group by", "grouped by", "per ", "for each", "分组", "按"]

/-- The words for each field that can be grouped by, in order of preference. -/
def groupFields : List (List String × String) :=
  [(["province", "省份", "省"], "province"), (["city", "城市"], "city"),
    (["date", "day", "daily", "日期", "每天", "天"], "date")]

def aggregateFunctions : List (List String × Aggregate) :=
  [(["count", "how many", "number of", "计数", "数量"], ⟨"count", "count(*)"⟩),
    (["sum", "total", "求和", "总额", "总计"], ⟨"total", "sum(amount)"⟩),
    (["average", "avg", "mean", "平均"], ⟨"avg_amount", "avg(amount)"⟩),
    (["max", "highest", "最大", "最高"], ⟨"max_amount", "max(amount)"⟩),
    (["min", "lowest", "最小", "最低"], ⟨"min_amount", "min(amount)"⟩)]

/-- The phrases for windows of a fixed number of days. -/
def fixedWindows : List (List String × UInt32) :=
  [(["past week", "过去一周", "最近一周"], 7), (["past month", "过去一个月", "最近一个月"], 30),
    (["past quarter", "过去一个季度", "最近三个月"], 90)]

def formatWords : List (List String × Format) :=
  [(["chart", "graph", "plot", "图表", "可视化"], .chart), (["csv", "export", "导出"], .csv),
    (["table", "表格"], .table)]

/-- The phrases that ask for ascending order. -/
def ascendingPhrases : List String := ["ascending", "lowest", "升序"]

/-- Whether one of the phrases occurs in the text. -/
def mentions (text : String) (phrases : List String) : Bool :=
  phrases.any (Text.contains text)

end QueryDesk.Vocabulary
